import SlackCourier.Json.Reader.Value
import SlackCourier.Proofs.Json.Shape
import SlackCourier.Proofs.Steps

/-!
# What is read is in order

Whatever is read of a JSON text, the members of its objects are in the order of their
keys, so that what was read has one form (`Members.IsOrdered.ext`), and no more
levels are nested than may be. The loops over items and members keep what the readers
of one item or one member establish (`forall_mem_of_readList`, `of_readObject`).

* `isOrdered_of_parse`: a value that is read is in order and not too deep.
-/

namespace SlackCourier.Json

variable {α σ : Type} {limit : Nat} {octets rest : Octets}

/-! ## Loops -/

theorem forall_mem_of_readItems {item : Reader α} {p : α → Prop}
    (hi : ∀ octets value rest, item octets = .ok (value, rest) → p value)
    {earlier values : List α} (he : ∀ value ∈ earlier, p value)
    (h : readItems item limit earlier octets = .ok (values, rest)) : ∀ value ∈ values, p value := by
  induction limit generalizing earlier octets with
  | zero => cases h
  | succ limit ih =>
    rw [readItems] at h
    obtain ⟨⟨value, behind⟩, hv, h⟩ := bind_eq_ok_iff.mp h
    have hn : ∀ other ∈ value :: earlier, p other :=
      List.forall_mem_cons.mpr ⟨hi _ _ _ hv, he⟩
    -- Only where the list is closed or another item follows is anything read.
    dsimp only at h
    split at h
    · cases h
    split at h
    · cases h
      exact fun other ho => hn other (List.mem_reverse.mp ho)
    split at h
    case isFalse => cases h
    split at h
    · cases h
    split at h
    · cases h
    exact ih hn h

/-- What holds of every item that is read holds of all items of a list. -/
theorem forall_mem_of_readList {item : Reader α} {p : α → Prop}
    (hi : ∀ octets value rest, item octets = .ok (value, rest) → p value) {values : List α}
    (h : readList item limit octets = .ok (values, rest)) : ∀ value ∈ values, p value := by
  rw [readList] at h
  split at h
  · cases h
  split at h
  · cases h
    exact fun _ hv => absurd hv List.not_mem_nil
  · exact forall_mem_of_readItems hi (fun _ hv => absurd hv List.not_mem_nil) h

theorem of_readMembers {member : σ → String → Reader σ} {p : σ → Prop}
    (hm : ∀ gathered key octets next rest, p gathered →
      member gathered key octets = .ok (next, rest) → p next)
    {gathered result : σ} (hg : p gathered)
    (h : readMembers member limit gathered octets = .ok (result, rest)) : p result := by
  induction limit generalizing gathered octets with
  | zero => cases h
  | succ limit ih =>
    rw [readMembers] at h
    obtain ⟨⟨⟨⟩, behindQuote⟩, -, h⟩ := bind_eq_ok_iff.mp h
    obtain ⟨⟨key, behindKey⟩, -, h⟩ := bind_eq_ok_iff.mp h
    obtain ⟨⟨next, behindValue⟩, hv, h⟩ := bind_eq_ok_iff.mp h
    have hn : p next := hm _ _ _ _ _ hg hv
    -- Only where the object is closed or another member follows is anything read.
    dsimp only at h
    split at h
    · cases h
    split at h
    · cases h
      exact hn
    split at h
    case isFalse => cases h
    split at h
    · cases h
    split at h
    · cases h
    exact ih hn h

/-- What holds at the start and is kept by every member holds in the end. -/
theorem of_readObject {member : σ → String → Reader σ} {p : σ → Prop}
    (hm : ∀ gathered key octets next rest, p gathered →
      member gathered key octets = .ok (next, rest) → p next)
    {start result : σ} (hs : p start)
    (h : readObject member limit start octets = .ok (result, rest)) : p result := by
  rw [readObject] at h
  split at h
  · cases h
  split at h
  · cases h
    exact hs
  · exact of_readMembers hm hs h

/-! ## Values -/

/-- A member is put in its place, and what holds of its value and of the other values
    holds of all of them. -/
theorem of_readMember {reader : Reader Json} {p : Json → Prop}
    (hr : ∀ octets value rest, reader octets = .ok (value, rest) → p value)
    {gathered next : Members} {key : String}
    (hg : gathered.IsOrdered ∧ ∀ member ∈ gathered, p member.2)
    (h : readMember reader gathered key octets = .ok (next, rest)) :
    next.IsOrdered ∧ ∀ member ∈ next, p member.2 := by
  rw [readMember] at h
  obtain ⟨⟨⟨⟩, behindColon⟩, -, h⟩ := bind_eq_ok_iff.mp h
  obtain ⟨⟨value, behindValue⟩, hv, h⟩ := bind_eq_ok_iff.mp h
  cases h
  refine ⟨hg.1.put key value, fun member hp => ?_⟩
  obtain rfl | hp := Members.mem_put hp
  · exact hr _ _ _ hv
  · exact hg.2 member hp

/-- A value is in order and no deeper than it may be: by induction on the levels that
    are left, of which every list and every object takes one. -/
theorem isOrdered_of_readValue {depth : Nat} {value : Json}
    (h : readValue limit depth octets = .ok (value, rest)) :
    value.IsOrdered ∧ value.depth ≤ depth := by
  induction depth using Nat.strongRecOn generalizing octets value rest with
  | ind depth ih =>
    rw [readValue] at h
    obtain ⟨⟨found, behind⟩, -, h⟩ := bind_eq_ok_iff.mp h
    cases found with
    | null =>
      cases h
      exact ⟨.null, Nat.zero_le depth⟩
    | bool value =>
      cases h
      exact ⟨.bool value, Nat.zero_le depth⟩
    | number value =>
      cases h
      exact ⟨.number value, Nat.zero_le depth⟩
    | text value =>
      cases h
      exact ⟨.text value, Nat.zero_le depth⟩
    | list =>
      cases depth with
      | zero => cases h
      | succ depth =>
        obtain ⟨⟨items, behindList⟩, hl, h⟩ := bind_eq_ok_iff.mp h
        cases h
        have hi := forall_mem_of_readList (fun _ _ _ => ih depth (Nat.lt_succ_self depth)) hl
        exact ⟨.list fun item hm => (hi item hm).1, depth_list_le fun item hm => (hi item hm).2⟩
    | object =>
      cases depth with
      | zero => cases h
      | succ depth =>
        obtain ⟨⟨members, behindObject⟩, ho, h⟩ := bind_eq_ok_iff.mp h
        cases h
        obtain ⟨hm, hv⟩ := of_readObject
          (fun _ _ _ _ _ => of_readMember fun _ _ _ => ih depth (Nat.lt_succ_self depth))
          ⟨.nil, fun _ h => absurd h List.not_mem_nil⟩ ho
        exact ⟨.object hm fun member hp => (hv member hp).1,
          depth_object_le fun member hp => (hv member hp).2⟩

/-- A value that is read is in order, and no deeper than it may be. -/
theorem isOrdered_of_parse {value : Json} (h : parse octets = .ok value) :
    value.IsOrdered ∧ value.depth ≤ greatestDepth := by
  rw [parse, readWhole] at h
  split at h
  · cases h
  · next held behind hr =>
    split at h
    · cases h
      exact isOrdered_of_readValue hr
    · cases h

end SlackCourier.Json
