import Proximity.Identity

/-! Attached clients and the token each was given: at most one entry a client, in ascending
order. -/

set_option autoImplicit false

namespace Proximity

namespace ClientTable

abbrev Entries := List (ClientId × Token)

def Ascending (entries : Entries) : Prop :=
  entries.Pairwise fun a b => a.1.value < b.1.value

def put (client : ClientId) (token : Token) : Entries → Entries
  | [] => [(client, token)]
  | entry :: rest =>
    if client.value < entry.1.value then (client, token) :: entry :: rest
    else if client = entry.1 then (client, token) :: rest
    else entry :: put client token rest

def without (client : ClientId) (entries : Entries) : Entries :=
  entries.filter fun entry => entry.1 ≠ client

theorem mem_put {client : ClientId} {token : Token} {entries : Entries}
    {entry : ClientId × Token} (member : entry ∈ put client token entries) :
    entry = (client, token) ∨ entry ∈ entries := by
  induction entries with
  | nil => simpa [put] using member
  | cons head rest ih =>
    simp only [put] at member
    split at member
    · simpa using member
    · split at member
      · rcases List.mem_cons.1 member with rfl | old
        · exact .inl rfl
        · exact .inr (List.mem_cons_of_mem _ old)
      · rcases List.mem_cons.1 member with rfl | old
        · exact .inr (List.mem_cons_self ..)
        · exact (ih old).imp id (List.mem_cons_of_mem _)

theorem ascending_put {entries : Entries} (client : ClientId) (token : Token)
    (ordered : Ascending entries) : Ascending (put client token entries) := by
  induction entries with
  | nil => simp [put, Ascending]
  | cons head rest ih =>
    obtain ⟨below, restOrdered⟩ := List.pairwise_cons.1 ordered
    simp only [put]
    split
    · rename_i less
      refine List.pairwise_cons.2 ⟨?_, ordered⟩
      intro entry member
      rcases List.mem_cons.1 member with rfl | old
      · exact less
      · exact UInt32.lt_trans less (below entry old)
    · rename_i notLess
      split
      · rename_i same
        exact List.pairwise_cons.2 ⟨fun entry old => same ▸ below entry old, restOrdered⟩
      · rename_i different
        refine List.pairwise_cons.2 ⟨?_, ih restOrdered⟩
        intro entry member
        rcases mem_put member with rfl | old
        · have unequal : head.1.value ≠ client.value :=
            fun equal => different (ClientId.ext equal.symm)
          exact UInt32.lt_of_le_of_ne (UInt32.not_lt.1 notLess) unequal
        · exact below entry old

theorem ascending_without {entries : Entries} (client : ClientId) (ordered : Ascending entries) :
    Ascending (without client entries) :=
  ordered.filter _

theorem lookup_cons (other : ClientId) (entry : ClientId × Token) (entries : Entries) :
    List.lookup other (entry :: entries) =
      if other = entry.1 then some entry.2 else entries.lookup other := by
  rw [List.lookup_cons]
  by_cases same : other = entry.1
  · simp [same]
  · have unequal : (other == entry.1) = false := by simpa using same
    simp [same, unequal]

theorem lookup_put (client other : ClientId) (token : Token) (entries : Entries) :
    (put client token entries).lookup other =
      if other = client then some token else entries.lookup other := by
  induction entries with
  | nil => simp [put, lookup_cons]
  | cons head rest ih =>
    simp only [put]
    split
    · rw [lookup_cons]
    · split
      · rename_i replaced
        simp only [lookup_cons, ← replaced]
        split <;> rfl
      · rename_i different
        simp only [lookup_cons, ih]
        by_cases here : other = head.1
        · simp [here, Ne.symm different]
        · simp [here]

theorem lookup_without (client other : ClientId) (entries : Entries) :
    (without client entries).lookup other =
      if other = client then none else entries.lookup other := by
  induction entries with
  | nil => simp [without]
  | cons head rest ih =>
    unfold without at ih ⊢
    by_cases kept : head.1 = client
    · rw [List.filter_cons_of_neg (by simpa using kept), ih, lookup_cons, kept]
      by_cases same : other = client <;> simp [same]
    · rw [List.filter_cons_of_pos (by simpa using kept), lookup_cons, ih, lookup_cons]
      by_cases here : other = head.1 <;> simp [here, kept]

end ClientTable

structure ClientTable where
  entries : ClientTable.Entries
  ascending : ClientTable.Ascending entries

namespace ClientTable

def empty : ClientTable := ⟨[], .nil⟩

def token? (table : ClientTable) (client : ClientId) : Option Token :=
  table.entries.lookup client

def isAttached (table : ClientTable) (client : ClientId) : Bool := (table.token? client).isSome

def insert (table : ClientTable) (client : ClientId) (token : Token) : ClientTable :=
  ⟨put client token table.entries, ascending_put client token table.ascending⟩

def erase (table : ClientTable) (client : ClientId) : ClientTable :=
  ⟨without client table.entries, ascending_without client table.ascending⟩

/-- The latest token given to a client is the recorded one; other clients keep theirs. -/
@[simp] theorem token?_insert (table : ClientTable) (client other : ClientId) (token : Token) :
    (table.insert client token).token? other =
      if other = client then some token else table.token? other :=
  lookup_put client other token table.entries

@[simp] theorem token?_erase (table : ClientTable) (client other : ClientId) :
    (table.erase client).token? other = if other = client then none else table.token? other :=
  lookup_without client other table.entries

def clients (table : ClientTable) : List ClientId := table.entries.map (·.1)

theorem mem_clients {table : ClientTable} {client : ClientId} :
    client ∈ table.clients ↔ table.isAttached client = true := by
  have absent : table.entries.lookup client = none ↔ client ∉ table.clients := by
    rw [List.lookup_eq_none_iff, clients, List.mem_map]
    constructor
    · rintro unlike ⟨entry, member, rfl⟩
      simpa using unlike entry member
    · intro missing entry member
      rw [bne_iff_ne]
      rintro rfl
      exact missing ⟨entry, member, rfl⟩
  rw [isAttached, token?, Option.isSome_iff_ne_none, Ne, absent, Decidable.not_not]

theorem clients_ascending (table : ClientTable) :
    table.clients.Pairwise fun a b => a.value < b.value :=
  List.pairwise_map.2 table.ascending

end ClientTable

end Proximity
