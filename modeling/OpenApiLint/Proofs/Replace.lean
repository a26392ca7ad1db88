import Mathlib
/-!
# Replacing a character

`String.replace` with a character pattern writes the replacement in place of
every occurrence of the character and copies everything else: on the
characters of the text it is the substitution `x ↦ if x = c then r else [x]`.

The string library runs `replace` as a fold over the steps of a searcher, each
step either a match or a run of rejected text, and it gives meaning to those
steps through `IsValidSearchFrom` and the model splitter `Model.split`.  The
proof follows the steps: the text the fold has written after each step is the
pieces of `Model.split` so far joined by the replacement, because a match
closes a piece and a rejected run extends the open one
(`copy_slice_append_copy_slice`).  The library's own `toList_splitToSubslice_char`
then turns the pieces into `List.splitOn`, and joining the pieces of a split
by `r` is the substitution (`intercalate_splitOn_eq_flatMap`).

## Main statements

* `replace_char_eq_intercalate` — replacing is joining the pieces of a split.
* `toList_replace_char` — replacing is a substitution of characters.
-/

namespace OpenApiLint

open String.Slice String.Slice.Pattern String.Slice.Pattern.Model

/-! ## The searcher's steps -/

/-- Two adjacent slices of a slice copy to the slice they cover. -/
theorem copy_slice_append_copy_slice {s : String.Slice} {a b c : s.Pos} (hab : a ≤ b)
    (hbc : b ≤ c) :
    (s.slice a b hab).copy ++ (s.slice b c hbc).copy = (s.slice a c (Std.le_trans hab hbc)).copy := by
  obtain ⟨t₁, t₂, ha, hb⟩ := copy_slice_eq_iff_splits.1 ⟨hab, rfl⟩
  obtain ⟨t₁', t₂', hb', hc⟩ := copy_slice_eq_iff_splits.1 ⟨hbc, rfl⟩
  -- `b` splits the slice in one way only, so the two descriptions of it agree
  obtain ⟨rfl, rfl⟩ := hb.eq hb'
  have ha' : a.Splits t₁ (((s.slice a b hab).copy ++ (s.slice b c hbc).copy) ++ t₂') := by
    simpa [String.append_assoc] using ha
  have hc' : c.Splits (t₁ ++ ((s.slice a b hab).copy ++ (s.slice b c hbc).copy)) t₂' := by
    simpa [String.append_assoc] using hc
  obtain ⟨_, h⟩ := copy_slice_eq_iff_splits.2 ⟨t₁, t₂', ha', hc'⟩
  exact h.symm

/-- A split always has a piece. -/
theorem split_char_ne_nil {c : Char} {s : String.Slice} (f cur : s.Pos) (hle : f ≤ cur) :
    Model.split c f cur hle ≠ [] := by
  fun_induction Model.split c f cur hle <;> simp_all

/-- **The replacing fold over valid steps.**  Started on the text of the open
piece, from `start` to where the steps begin, the fold writes the pieces of the
split from `start`, joined by the replacement. -/
theorem foldl_replace_steps {c : Char} {s : String.Slice} (r : String)
    (f : String → SearchStep s → String)
    (hm : ∀ acc p q, f acc (.matched p q) = acc ++ r)
    (hr : ∀ acc p q, f acc (.rejected p q) = acc ++ (s.slice! p q).copy)
    {l : List (SearchStep s)} {cur : s.Pos} (h : IsValidSearchFrom c cur l) (start : s.Pos)
    (hle : start ≤ cur) (acc : String) :
    l.foldl f (acc ++ (s.slice start cur hle).copy) =
      acc ++ r.intercalate ((Model.split c start cur hle).map fun p => p.toSlice.copy) := by
  induction h generalizing start acc with
  | endPos => simp [String.intercalate_singleton]
  | matched hmatch valid ih =>
    rename_i l startPos endPos
    -- a match closes the open piece and starts an empty one after it
    rw [List.foldl_cons, hm, split_eq_of_isLongestMatchAt hmatch, List.map_cons,
      String.intercalate_cons_of_ne_nil (by simpa using split_char_ne_nil _ _ _)]
    have hrest := ih endPos (Std.le_refl _) (acc ++ (s.slice start startPos hle).copy ++ r)
    rw [copy_slice_self, String.append_empty] at hrest
    rw [hrest]
    simp [String.append_assoc]
  | mismatched hlt rej valid ih =>
    rename_i l startPos endPos
    -- a rejected run extends the open piece
    rw [List.foldl_cons, hr, ← slice_eq_slice! (h := Std.le_of_lt hlt), String.append_assoc,
      copy_slice_append_copy_slice, ih, split_eq_of_not_matchesAt _ (Std.le_of_lt hlt) rej]

/-- The replacing fold from where the search starts. -/
theorem foldl_replace_steps_of_valid {c : Char} {s : String.Slice} (r : String)
    (f : String → SearchStep s → String)
    (hm : ∀ acc p q, f acc (.matched p q) = acc ++ r)
    (hr : ∀ acc p q, f acc (.rejected p q) = acc ++ (s.slice! p q).copy)
    {l : List (SearchStep s)} {cur : s.Pos} (h : IsValidSearchFrom c cur l) (acc : String) :
    l.foldl f acc =
      acc ++ r.intercalate ((Model.split c cur cur (Std.le_refl _)).map fun p => p.toSlice.copy) := by
  simpa using foldl_replace_steps r f hm hr h cur (Std.le_refl _) acc

/-! ## Replacing as a substitution -/

/-- **Replacing is joining the pieces of a split.** -/
theorem replace_char_eq_intercalate (s : String) (c : Char) (r : String) :
    s.replace c r = r.intercalate ((s.toList.splitOn c).map String.ofList) := by
  have hvalid : IsValidSearchFrom c s.toSlice.startPos
      (ToForwardSearcher.toSearcher c s.toSlice).toList :=
    LawfulToForwardSearcherModel.isValidSearchFrom_toList _
  have hsplit := toList_splitToSubslice_char (s := s.toSlice) (c := c)
  rw [toList_splitToSubslice_eq_modelSplit, String.copy_toSlice] at hsplit
  rw [String.replace, String.Slice.replace, ← Std.Iter.foldl_toList]
  refine (foldl_replace_steps_of_valid r _ ?_ ?_ hvalid "").trans ?_
  · intros
    exact congrArg (_ ++ ·) String.copy_toSlice
  · intros
    rfl
  · rw [String.empty_append, ← hsplit]
    rfl

/-- Joining the pieces of a split by `r` substitutes `r` for the separator. -/
theorem intercalate_splitOn_eq_flatMap {α : Type} [DecidableEq α] (r : List α) (c : α)
    (xs : List α) :
    r.intercalate (xs.splitOn c) = xs.flatMap fun x => if x = c then r else [x] := by
  induction xs with
  | nil => simp
  | cons hd tl ih =>
    simp only [List.splitOn_cons_eq_if_modifyHead, beq_iff_eq]
    split
    · simp_all [List.intercalate_cons_of_ne_nil, List.splitOn_ne_nil]
    · -- the head joins the first piece of the tail's split
      have hsp := List.splitOn_ne_nil c tl
      generalize List.splitOn c tl = ls at *
      cases ls <;> simp_all

/-- **Replacing a character is a substitution of characters.** -/
theorem toList_replace_char (s : String) (c : Char) (r : String) :
    (s.replace c r).toList = s.toList.flatMap fun x => if x = c then r.toList else [x] := by
  rw [replace_char_eq_intercalate, String.toList_intercalate, List.map_map]
  simp only [Function.comp_def, String.toList_ofList, List.map_id']
  exact intercalate_splitOn_eq_flatMap _ _ _

end OpenApiLint
