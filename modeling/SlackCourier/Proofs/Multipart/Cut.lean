import SlackCourier.Multipart.Reader

/-!
# Cutting at a mark

Where `cut?` cuts. Nothing is cut in front of the first element of the mark
(`cut?_append_of_not_mem`). A mark whose first element does not come again in it
cannot reach from one text into an occurrence of itself behind that text, so it
is found exactly where it was put (`cut?_append_mark`) unless it already occurs
in what stands in front; and then the cut comes too early
(`exists_cut?_of_infix`).
-/

namespace SlackCourier.Multipart

variable {α : Type} [BEq α] [LawfulBEq α] {x y : α} {mark tail front back rest : List α}

theorem cut?_cons_of_mismatch (h : ¬ mark <+: y :: rest) :
    cut? mark (y :: rest) = (cut? mark rest).map fun (front, back) => (y :: front, back) := by
  rw [cut?, if_neg]
  rwa [List.isPrefixOf_iff_prefix]

theorem cut?_mark_append (x : α) (tail back : List α) :
    cut? (x :: tail) ((x :: tail) ++ back) = some ([], back) := by
  rw [List.cons_append, cut?, if_pos]
  · rw [← List.cons_append, List.drop_left]
  · rw [List.isPrefixOf_iff_prefix, ← List.cons_append]
    exact List.prefix_append _ _

theorem cut?_cons_of_ne (h : x ≠ y) :
    cut? (x :: tail) (y :: rest) =
      (cut? (x :: tail) rest).map fun (front, back) => (y :: front, back) :=
  cut?_cons_of_mismatch fun hp => h (List.cons_prefix_cons.1 hp).1

/-- Nothing is cut in front of the first element of the mark. -/
theorem cut?_append_of_not_mem (h : x ∉ front) (rest : List α) :
    cut? (x :: tail) (front ++ rest) =
      (cut? (x :: tail) rest).map fun (before, back) => (front ++ before, back) := by
  induction front with
  | nil => simp
  | cons y front ih =>
    rw [List.mem_cons, not_or] at h
    rw [List.cons_append, cut?_cons_of_ne h.1, ih h.2, Option.map_map]
    rfl

/-- A mark is found behind a text without its first element. -/
theorem cut?_mark_of_not_mem (h : x ∉ front) (back : List α) :
    cut? (x :: tail) (front ++ ((x :: tail) ++ back)) = some (front, back) := by
  rw [cut?_append_of_not_mem h, cut?_mark_append]
  simp

omit [BEq α] [LawfulBEq α] in
/-- A mark whose first element does not come again in it does not reach from a
    text into an occurrence of itself behind that text. -/
theorem isPrefix_of_isPrefix_append_mark (hx : x ∉ tail)
    (h : x :: tail <+: (y :: front) ++ ((x :: tail) ++ back)) : x :: tail <+: y :: front := by
  rcases List.prefix_or_prefix_of_prefix h (List.prefix_append _ _) with hp | ⟨reached, hr⟩
  · exact hp
  · -- What the mark reaches beyond the text begins with its own first element.
    have hm : reached <+: (x :: tail) ++ back := by
      rw [← List.prefix_append_right_inj (y :: front), hr]
      exact h
    cases reached with
    | nil =>
      rw [List.append_nil] at hr
      exact hr ▸ List.prefix_rfl
    | cons z reached =>
      obtain ⟨rfl, _⟩ := List.cons_prefix_cons.1 hm
      obtain ⟨_, rfl⟩ := List.cons.inj hr
      exact absurd (List.mem_append_right front List.mem_cons_self) hx

/-- A mark is found behind a text in which it does not occur. -/
theorem cut?_append_mark (hx : x ∉ tail) (h : ¬ x :: tail <:+: front) (back : List α) :
    cut? (x :: tail) (front ++ ((x :: tail) ++ back)) = some (front, back) := by
  induction front with
  | nil => exact cut?_mark_append x tail back
  | cons y front ih =>
    rw [List.infix_cons_iff, not_or] at h
    rw [List.cons_append, cut?_cons_of_mismatch, ih h.2, Option.map_some]
    rw [← List.cons_append]
    exact fun hp => h.1 (isPrefix_of_isPrefix_append_mark hx hp)

/-- A mark that occurs in a text is found before the text ends. -/
theorem exists_cut?_of_infix (h : x :: tail <:+: front) (back : List α) :
    ∃ before after, cut? (x :: tail) (front ++ back) = some (before, after) ∧
      before.length < front.length := by
  induction front with
  | nil => exact absurd (List.infix_nil.1 h) (List.cons_ne_nil x tail)
  | cons y front ih =>
    by_cases hp : x :: tail <+: y :: (front ++ back)
    · -- The mark is found here, perhaps with its end behind the text.
      obtain ⟨after, ha⟩ := hp
      refine ⟨[], after, ?_, Nat.zero_lt_succ _⟩
      rw [List.cons_append, ← ha, cut?_mark_append]
    · have hi : x :: tail <:+: front := by
        rcases List.infix_cons_iff.1 h with hy | hi
        · exact absurd (hy.trans (List.prefix_append _ _)) hp
        · exact hi
      obtain ⟨before, after, hc, hl⟩ := ih hi
      refine ⟨y :: before, after, ?_, Nat.succ_lt_succ hl⟩
      rw [List.cons_append, cut?_cons_of_mismatch hp, hc, Option.map_some]

end SlackCourier.Multipart
