import Mathlib.Data.List.Perm.Basic
import SlackCourier.Proofs.Json.Shape

/-!
# Fields of an object

An object may name a key any number of times (`Members.values`). A field of a record is
a key that may come once, with a value of some kind (`AtMostOnce`); of every other key
the last value counts, or none does. Members are taken one by one, so a field remembers
whether it has come (`keepOnce`), and it has come at most once in the end exactly if no
member was refused on the way.

* `foldlM_keepOnce_eq_some_iff`: what a field holds after all members.
* `Members.values_eq_of_perm`: if every key comes once, the order of the members is lost.
-/

namespace SlackCourier

variable {α : Type} {members members' : Members} {key key' : String}

/-! ## The values of a key -/

namespace Members

/-- The values of the members with a key, in their order. -/
def values (key : String) (members : Members) : List Json :=
  (members.filter (·.1 = key)).map Prod.snd

theorem values_cons (member : String × Json) (members : Members) :
    values key (member :: members) =
      if member.1 = key then member.2 :: values key members else values key members := by
  rw [values, List.filter_cons]
  by_cases h : member.1 = key
  · rw [if_pos (decide_eq_true h), if_pos h, List.map_cons]
    rfl
  · rw [if_neg (mt of_decide_eq_true h), if_neg h]
    rfl

/-- The first value from behind is the last one. -/
theorem value?_reverse (members : Members) (key : String) :
    value? key members.reverse = (members.values key).getLast? := by
  have hv (members : Members) : value? key members = (members.values key).head? := by
    induction members with
    | nil => rfl
    | cons member members ih =>
      rw [value?_cons, values_cons, ih]
      by_cases h : key = member.1
      · rw [if_pos h, if_pos h.symm, List.head?_cons]
      · rw [if_neg h, if_neg (Ne.symm h)]
  rw [hv, values, List.filter_reverse, List.map_reverse, List.head?_reverse, values]

theorem values_map (f : Json → Json) (members : Members) (key : String) :
    values key (members.map fun member => (member.1, f member.2)) =
      (members.values key).map f := by
  rw [values, values, List.filter_map, List.map_map, List.map_map]
  rfl

/-- The members with some of the keys keep their values. -/
theorem values_filter (p : String → Bool) (members : Members) (key : String) :
    values key (members.filter (p ·.1)) = if p key then members.values key else [] := by
  rw [values, List.filter_filter, values]
  split
  · next h =>
    congr 1
    refine List.filter_congr fun member _ => ?_
    by_cases hk : member.1 = key
    · simp [hk, h]
    · simp [hk]
  · next h =>
    rw [List.filter_eq_nil_iff.mpr, List.map_nil]
    rintro ⟨other, value⟩ -
    rw [Bool.and_eq_true, decide_eq_true_iff]
    rintro ⟨rfl, hp⟩
    exact h hp

theorem exists_mem_of_mem_values {value : Json} (h : value ∈ members.values key) :
    ∃ member ∈ members, member.2 = value := by
  obtain ⟨member, hm, rfl⟩ := List.mem_map.mp h
  exact ⟨member, List.mem_of_mem_filter hm, rfl⟩

/-- What is gathered of the members with other keys than the given ones: their last values. -/
theorem value?_gather_filter (f : Json → Json) (keys : List String) (members : Members)
    (key : String) :
    value? key (gather ((members.filter (·.1 ∉ keys)).map fun member => (member.1, f member.2))) =
      if key ∈ keys then none else (members.values key).getLast?.map f := by
  rw [value?_gather, value?_reverse, values_map, values_filter (· ∉ keys)]
  by_cases h : key ∈ keys <;> simp [h]

/-- Where no key comes twice, each has the item in its place. -/
theorem values_zip {keys : List String} (hn : keys.Nodup) (items : List Json) {i : Nat}
    (hi : i < keys.length) : values keys[i] (keys.zip items) = items[i]?.toList := by
  induction keys generalizing items i with
  | nil => cases hi
  | cons first keys ih =>
    obtain ⟨hf, hn⟩ := List.nodup_cons.mp hn
    cases items with
    | nil => rfl
    | cons item items =>
      rw [List.zip_cons_cons, values_cons]
      cases i with
      | zero =>
        have hv : values first (keys.zip items) = [] := by
          rw [values, List.filter_eq_nil_iff.mpr, List.map_nil]
          intro member hm he
          exact hf (of_decide_eq_true he ▸ (List.of_mem_zip hm).1)
        rw [List.getElem_cons_zero, if_pos rfl, hv]
        rfl
      | succ i =>
        have hi := Nat.lt_of_succ_lt_succ hi
        have hk : first ≠ keys[i] := fun hk => hf (hk ▸ List.getElem_mem hi)
        rw [List.getElem_cons_succ, if_neg hk, ih hn, List.getElem?_cons_succ]

/-! ### Order -/

theorem values_perm (h : members.Perm members') (key : String) :
    (members.values key).Perm (members'.values key) :=
  (h.filter _).map _

/-- Where a key comes at most once, it has the same values in every order. -/
theorem values_eq_of_perm_of_length (h : members.Perm members')
    (hl : (members.values key).length ≤ 1) : members'.values key = members.values key := by
  have hp := values_perm h key
  cases hv : members.values key with
  | nil => rw [hv] at hp; exact hp.nil_eq.symm
  | cons value values =>
    rw [hv, List.length_cons] at hl
    obtain rfl := List.length_eq_zero_iff.mp (Nat.le_zero.mp (Nat.le_of_succ_le_succ hl))
    rw [hv] at hp
    exact List.perm_singleton.mp hp.symm

/-- So it is if no key comes twice. -/
theorem values_eq_of_perm (h : members.Perm members') (hn : (members.map Prod.fst).Nodup)
    (key : String) : members'.values key = members.values key := by
  refine values_eq_of_perm_of_length h ?_
  induction members generalizing members' with
  | nil => exact Nat.zero_le 1
  | cons member members ih =>
    obtain ⟨hm, hn⟩ := List.nodup_cons.mp hn
    rw [values_cons]
    split
    · next hk =>
      have hv : values key members = [] := by
        rw [values, List.filter_eq_nil_iff.mpr, List.map_nil]
        intro other ho he
        refine hm (List.mem_map.mpr ⟨other, ho, ?_⟩)
        rw [hk, of_decide_eq_true he]
      rw [hv]
      exact Nat.le_refl 1
    · exact ih (.refl members) hn

end Members

/-! ## Fields that come at most once -/

/-- The key does not come, or it comes once with a value of the kind. -/
inductive AtMostOnce (kind : Json → Option α) : List Json → Option α → Prop
  | absent : AtMostOnce kind [] none
  | once {value : Json} {held : α} : kind value = some held → AtMostOnce kind [value] (some held)

theorem exists_atMostOnce_iff {kind : Json → Option α} {values : List Json} :
    (∃ held, AtMostOnce kind values held) ↔
      values.length ≤ 1 ∧ ∀ value ∈ values, ∃ held, kind value = some held := by
  constructor
  · rintro ⟨held, h⟩
    cases h with
    | absent => exact ⟨Nat.zero_le 1, fun _ h => absurd h List.not_mem_nil⟩
    | once hk => exact ⟨Nat.le_refl 1, List.forall_mem_singleton.mpr ⟨_, hk⟩⟩
  · rintro ⟨hl, hv⟩
    match values, hl, hv with
    | [], _, _ => exact ⟨none, .absent⟩
    | [value], _, hv =>
      obtain ⟨held, hk⟩ := hv value List.mem_cons_self
      exact ⟨some held, .once hk⟩

/-- What is held of a field after one more value, which is refused if there was one before. -/
def unlessHeld (held answer : Option α) : Option α :=
  if held.isSome then none else answer

/-- What is held of a field behind one more member, unless the member is refused. -/
def keepOnce (kind : Json → Option α) (key : String) (held : Option α) (member : String × Json) :
    Option (Option α) :=
  if member.1 = key then (unlessHeld held (kind member.2)).map some else some held

theorem foldlM_keepOnce_of_held (kind : Json → Option α) (value : α) (held : Option α) :
    members.foldlM (keepOnce kind key) (some value) = some held ↔
      members.values key = [] ∧ held = some value := by
  induction members with
  | nil => simp [Members.values, eq_comm]
  | cons member members ih =>
    rw [List.foldlM_cons, Members.values_cons, keepOnce]
    by_cases h : member.1 = key
    · rw [if_pos h, if_pos h]
      exact iff_of_false nofun fun hv => List.cons_ne_nil _ _ hv.1
    · rw [if_neg h, if_neg h, ← ih]
      rfl

/-- Taken one by one, the members leave to a field what the key has at most once. -/
theorem foldlM_keepOnce_eq_some_iff (kind : Json → Option α) (members : Members) (key : String)
    (held : Option α) :
    members.foldlM (keepOnce kind key) none = some held ↔
      AtMostOnce kind (members.values key) held := by
  induction members with
  | nil =>
    constructor
    · rintro ⟨⟩
      exact .absent
    · rintro ⟨⟩
      rfl
  | cons member members ih =>
    rw [List.foldlM_cons, Members.values_cons, keepOnce]
    by_cases h : member.1 = key
    · rw [if_pos h, if_pos h]
      cases hk : kind member.2 with
      | none =>
        refine iff_of_false nofun ?_
        intro ha
        generalize Members.values key members = values at ha
        cases ha with
        | once ho =>
          rw [hk] at ho
          cases ho
      | some value =>
        show members.foldlM (keepOnce kind key) (some value) = some held ↔ _
        rw [foldlM_keepOnce_of_held]
        constructor
        · rintro ⟨hv, rfl⟩
          rw [hv]
          exact .once hk
        · intro ha
          generalize Members.values key members = values at ha
          cases ha with
          | once ho => exact ⟨rfl, by rw [← ho, hk]⟩
    · rw [if_neg h, if_neg h, ← ih]
      rfl

end SlackCourier
