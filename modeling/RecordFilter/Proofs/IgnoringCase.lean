/-
# Searches that ignore case

Four operators look for a text in a string: one at its start, one at its end, one at both and one
anywhere (`Anchors`).  When case is ignored, the string and the text are each taken in lower case as
a whole, and that is not the same as comparing them character by character.  All characters but one
have a lower case of their own, whatever stands around them.  A capital sigma has two, and which one
it gets depends on where words end: so the text alone can have a final sigma where the string, in
which the word goes on, has none.

The lower case of a part of a text in its place (`Text.lowercaseBetween`) has the same length in any
place, and it is that of the part alone exactly when all capital sigmas of the part agree
(`Text.sigmasAgree_iff`).  So a match is kept where case is ignored if they agree at the place that
was found, and it is lost at the start or at the end if they do not (`Anchors.ignoring_case`).
-/
import RecordFilter.Proofs.SingleConditions

namespace RecordFilter

/-! ## 1. Lower case of a part in its place -/

namespace Text

/-- The lower case of characters between others; those before them are given nearest first. -/
def lowercaseBetween : List Char → List Char → List Char → List Char
  | _, [], _ => []
  | before, c :: rest, after =>
    (if c = 'Σ' then [lowercaseSigma before (rest ++ after)] else Unicode.lowercaseChar c)
      ++ lowercaseBetween (c :: before) rest after

/-- Every capital sigma of a part has the lower case in its place that it has in the part alone. -/
def SigmasAgree (before part after : List Char) : Prop :=
  ∀ xs ys, part = xs ++ 'Σ' :: ys →
    lowercaseSigma (before ++ xs).reverse (ys ++ after) = lowercaseSigma xs.reverse ys

theorem lowercaseAfter_append (before part after : List Char) :
    lowercaseAfter before (part ++ after) =
      lowercaseBetween before part after ++ lowercaseAfter (part.reverse ++ before) after := by
  induction part generalizing before with
  | nil => rfl
  | cons c rest ih =>
    rw [List.cons_append, lowercaseAfter, lowercaseBetween, ih, List.append_assoc,
      List.reverse_cons, List.append_assoc, List.singleton_append]

theorem lowercaseBetween_nil (before part : List Char) :
    lowercaseBetween before part [] = lowercaseAfter before part := by
  have happend := lowercaseAfter_append before part []
  rw [List.append_nil, lowercaseAfter, List.append_nil] at happend
  exact happend.symm

theorem toList_lowercase (s : String) : (lowercase s).toList = lowercaseAfter [] s.toList :=
  String.toList_ofList

/-- The lower case of a text in three pieces. -/
theorem toList_lowercase_pieces {s : String} {before part after : List Char}
    (h : s.toList = before ++ part ++ after) : (lowercase s).toList =
      lowercaseBetween [] before (part ++ after) ++ lowercaseBetween before.reverse part after ++
        lowercaseAfter (part.reverse ++ before.reverse) after := by
  rw [toList_lowercase, h, List.append_assoc, lowercaseAfter_append, lowercaseAfter_append,
    List.append_nil, List.append_assoc]

section Places

variable {part before after before' after' : List Char}

/-- The lower case of a part is as long in one place as in another. -/
theorem length_lowercaseBetween : (lowercaseBetween before part after).length =
    (lowercaseBetween before' part after').length := by
  induction part generalizing before before' with
  | nil => rfl
  | cons c rest ih =>
    rw [lowercaseBetween, lowercaseBetween, List.length_append, List.length_append, ih]
    split <;> rfl

theorem length_lowercaseBetween_eq_after : (lowercaseBetween before part after).length =
    (lowercaseAfter before' part).length := by
  rw [← lowercaseBetween_nil]
  exact length_lowercaseBetween

/-- **Only capital sigmas depend on the place.** -/
theorem lowercaseBetween_eq_iff :
    lowercaseBetween before part after = lowercaseBetween before' part after' ↔
      ∀ xs ys, part = xs ++ 'Σ' :: ys → lowercaseSigma (xs.reverse ++ before) (ys ++ after) =
        lowercaseSigma (xs.reverse ++ before') (ys ++ after') := by
  induction part generalizing before before' with
  | nil => simp [lowercaseBetween]
  | cons c rest ih =>
    rw [lowercaseBetween, lowercaseBetween]
    constructor
    · rintro h (_ | ⟨x, xs⟩) ys hpart
      · obtain ⟨rfl, rfl⟩ := List.cons.inj hpart
        exact (List.cons.inj h).1
      · obtain ⟨rfl, hrest⟩ := List.cons.inj hpart
        have htail := (List.append_inj' h length_lowercaseBetween).2
        rw [List.reverse_cons, List.append_assoc, List.append_assoc]
        exact ih.mp htail xs ys hrest
    · intro h
      have htail : lowercaseBetween (c :: before) rest after =
          lowercaseBetween (c :: before') rest after' := ih.mpr fun xs ys hrest => by
        have hsigma := h (c :: xs) ys (congrArg (c :: ·) hrest)
        rwa [List.reverse_cons, List.append_assoc, List.append_assoc] at hsigma
      rw [htail]
      split
      next hc =>
        subst hc
        have hsigma : lowercaseSigma before (rest ++ after) =
            lowercaseSigma before' (rest ++ after') := h [] rest rfl
        rw [hsigma]
      next => rfl

/-- **The sigmas agree exactly when the part has its own lower case in its place.** -/
theorem sigmasAgree_iff : SigmasAgree before part after ↔
    lowercaseBetween before.reverse part after = lowercaseAfter [] part := by
  rw [← lowercaseBetween_nil, lowercaseBetween_eq_iff]
  simp only [SigmasAgree, List.reverse_append, List.append_nil]

theorem sigmasAgree_of_not_mem (h : 'Σ' ∉ part) : SigmasAgree before part after := by
  rintro xs ys rfl
  exact absurd (List.mem_append_right _ List.mem_cons_self) h

theorem sigmasAgree_whole : SigmasAgree [] part [] := by
  intro xs ys _
  rw [List.nil_append, List.append_nil]

end Places

end Text

/-! ## 2. The four searches -/

/-- The ends of a string that a search holds a text to. -/
structure Anchors where
  atStart : Bool
  atEnd : Bool

namespace Anchors

/-- The operator of a search, with the text to look for. -/
def setting : Anchors → String → Setting
  | ⟨true, true⟩, text => .equals (.string text)
  | ⟨true, false⟩, text => .startsWith text
  | ⟨false, true⟩, text => .endsWith text
  | ⟨false, false⟩, text => .includes text

/-- May the text stand between these pieces of the string? -/
def Admit (a : Anchors) (before after : List Char) : Prop :=
  (a.atStart = true → before = []) ∧ (a.atEnd = true → after = [])

/-- A place where the text stands in the string. -/
def FoundAt (a : Anchors) (text s before after : List Char) : Prop :=
  s = before ++ text ++ after ∧ a.Admit before after

/-- The set with just one search matches a string, with case ignored or not. -/
def Matches (a : Anchors) (text : String) (ignoringCase : Bool) (s : String) (scope : Scope) :
    Prop :=
  ((OperatorSet.ofSettings [a.setting text, .caseInsensitive ignoringCase]).evaluate
    (some (.string s)) scope).outcome = .ok true

section Searches

variable {a : Anchors} {text s : String} {ignoringCase : Bool} {scope : Scope}

/-- The truth value of a search in a string that may be in lower case, for a text likewise. -/
def search : Anchors → String → String → Bool
  | ⟨true, true⟩, text, s => s == text
  | ⟨true, false⟩, text, s => Text.isStart text s
  | ⟨false, true⟩, text, s => Text.isEnd text s
  | ⟨false, false⟩, text, s => Text.includes text s

theorem search_iff : a.search text s = true ↔
    ∃ before after, a.FoundAt text.toList s.toList before after := by
  match a with
  | ⟨true, true⟩ => simp [search, FoundAt, Admit, ← String.toList_inj]
  | ⟨true, false⟩ => simp [search, FoundAt, Admit, Text.isStart_iff, List.IsPrefix, @eq_comm _ s.toList]
  | ⟨false, true⟩ => simp [search, FoundAt, Admit, Text.isEnd_iff, List.IsSuffix, @eq_comm _ s.toList]
  | ⟨false, false⟩ => simp [search, FoundAt, Admit, Text.includes_iff, List.IsInfix, @eq_comm _ s.toList]

/-- A text as a set with just one search compares it. -/
def fold (ignoringCase : Bool) (s : String) : String :=
  Conditions.fold { caseInsensitive := ignoringCase } s

/-- A set with just one search asks nothing else of a string. -/
theorem matches_iff_search : a.Matches text ignoringCase s scope ↔
    a.search (fold ignoringCase text) (fold ignoringCase s) = true := by
  have hsets : ∀ {conditions : Conditions} {found : Bool},
      conditions.stringHolds s = found →
        (((OperatorSet.mk conditions none .empty).evaluate (some (.string s)) scope).outcome =
          .ok true ↔ found = true) := fun h => by
    rw [OperatorSet.evaluate_conditions, Except.ok.injEq, ← h]
    rfl
  obtain ⟨_ | _, _ | _⟩ := a
  all_goals
    refine hsets ?_
    simp only [setting, OperatorSet.set, OperatorSet.empty, Conditions.stringHolds,
      Conditions.ifSet_none, Conditions.ifSet_some, Conditions.equalsFolded, Bool.and_true,
      Bool.true_and]
    rfl

/-- **A search matches where the text is found**, both in lower case if case is ignored. -/
theorem matches_iff : a.Matches text ignoringCase s scope ↔ ∃ before after,
    a.FoundAt (fold ignoringCase text).toList (fold ignoringCase s).toList before after := by
  rw [matches_iff_search, search_iff]

/-- **A match is kept where the sigmas of the text agree** at the place where it was found. -/
theorem matches_of_sigmasAgree {before after : List Char}
    (hfound : a.FoundAt text.toList s.toList before after)
    (hagree : Text.SigmasAgree before text.toList after) : a.Matches text true s scope := by
  obtain ⟨hpieces, hstart, hend⟩ := hfound
  refine matches_iff.mpr ⟨Text.lowercaseBetween [] before (text.toList ++ after),
    Text.lowercaseAfter (text.toList.reverse ++ before.reverse) after, ?_, fun h => ?_, fun h => ?_⟩
  · change (Text.lowercase s).toList = _ ++ (Text.lowercase text).toList ++ _
    rw [Text.toList_lowercase_pieces hpieces, Text.sigmasAgree_iff.mp hagree,
      Text.toList_lowercase text]
  · rw [hstart h, Text.lowercaseBetween]
  · rw [hend h, Text.lowercaseAfter]

/-- **A match at the start or at the end is kept only there.** -/
theorem sigmasAgree_of_matches {before after : List Char} (hanchored : a.atStart || a.atEnd)
    (hfound : a.FoundAt text.toList s.toList before after) (h : a.Matches text true s scope) :
    Text.SigmasAgree before text.toList after := by
  obtain ⟨hpieces, hstart, hend⟩ := hfound
  obtain ⟨before', after', hlower, hstart', hend'⟩ := matches_iff.mp h
  change (Text.lowercase s).toList = before' ++ (Text.lowercase text).toList ++ after' at hlower
  rw [Text.toList_lowercase_pieces hpieces, Text.toList_lowercase text] at hlower
  -- What the search finds in lower case is as long as what stands in the place of the text.
  rcases Bool.or_eq_true_iff.mp hanchored with hanchor | hanchor
  · rw [hstart' hanchor, hstart hanchor, List.nil_append] at hlower
    rw [hstart hanchor]
    exact Text.sigmasAgree_iff.mpr
      (List.append_inj hlower Text.length_lowercaseBetween_eq_after).1
  · rw [hend' hanchor, hend hanchor, Text.lowercaseAfter] at hlower
    simp only [List.append_nil] at hlower
    rw [hend hanchor]
    exact Text.sigmasAgree_iff.mpr
      (List.append_inj' hlower Text.length_lowercaseBetween_eq_after).2

end Searches

/-! ## 3. What is kept -/

/-- **Ignoring case keeps matches but for capital sigmas.**  A match of one of the four searches is
kept if the text has no capital sigma, or if it is the whole string; it is kept if there is a place
where the text stands and its sigmas have the lower case that they have in the text alone, and a
match at the start or at the end is kept only then. -/
theorem ignoring_case (a : Anchors) (text s : String) (scope : Scope)
    (h : a.Matches text false s scope) :
    let agrees := ∃ before after, a.FoundAt text.toList s.toList before after ∧
      Text.SigmasAgree before text.toList after
    ('Σ' ∉ text.toList ∨ (a.atStart && a.atEnd) = true → a.Matches text true s scope) ∧
    (agrees → a.Matches text true s scope) ∧
    ((a.atStart || a.atEnd) = true → a.Matches text true s scope → agrees) := by
  intro agrees
  obtain ⟨before, after, hfound⟩ := matches_iff.mp h
  have hfound : a.FoundAt text.toList s.toList before after := hfound
  refine ⟨?_, fun ⟨before, after, hfound, hagree⟩ => matches_of_sigmasAgree hfound hagree,
    fun hanchored hmatches =>
      ⟨before, after, hfound, sigmasAgree_of_matches hanchored hfound hmatches⟩⟩
  rintro (hnone | hwhole)
  · exact matches_of_sigmasAgree hfound (Text.sigmasAgree_of_not_mem hnone)
  · obtain ⟨hstart, hend⟩ := Bool.and_eq_true_iff.mp hwhole
    refine matches_of_sigmasAgree hfound ?_
    rw [hfound.2.1 hstart, hfound.2.2 hend]
    exact Text.sigmasAgree_whole

/-- A word that ends in a sigma, at the start of a text where it is the first word. -/
theorem ignoring_case_word :
    let start : Anchors := ⟨true, false⟩
    let scope : Scope := ⟨[], 0, ⟨[]⟩⟩
    start.Matches "ΑΣ" false "ΑΣ Α" scope ∧ start.Matches "ΑΣ" true "ΑΣ Α" scope := by
  intro start scope
  have hoff : start.Matches "ΑΣ" false "ΑΣ Α" scope :=
    matches_iff.mpr ⟨[], [' ', 'Α'], by decide, by decide, by decide⟩
  refine ⟨hoff, (ignoring_case start "ΑΣ" "ΑΣ Α" scope hoff).2.1 ⟨[], [' ', 'Α'], ?_, ?_⟩⟩
  · exact ⟨by decide, by decide, by decide⟩
  · exact Text.sigmasAgree_iff.mpr (by decide +kernel)

/-- The same word is lost at the start of a longer one. -/
theorem ignoring_case_longer_word :
    let start : Anchors := ⟨true, false⟩
    let scope : Scope := ⟨[], 0, ⟨[]⟩⟩
    start.Matches "ΑΣ" false "ΑΣΑ" scope ∧ ¬ start.Matches "ΑΣ" true "ΑΣΑ" scope := by
  intro start scope
  rw [matches_iff_search, matches_iff_search]
  decide +kernel

end Anchors

end RecordFilter
