import Mathlib.Data.List.Infix
import Shorthand.Proofs.Reference.Longest
import Shorthand.Proofs.Reference.Pieces

/-! Where a reference begins, and to what name it is, depends on the known names that stand there and
on nothing else. So a name that a text does not mention may be known or not, and a text may be cut
before a character that no name can take in: neither changes a piece. -/

namespace Shorthand.Reference

variable {names names' : List String} {bounded : Bool} {s s' : List Char}

theorem IsLongest.congr {n : List Char} (hn : IsLongest names bounded s n)
    (h : ∀ m, String.ofList m ∈ names ∧ StandsAt bounded s m ↔
      String.ofList m ∈ names' ∧ StandsAt bounded s' m) : IsLongest names' bounded s' n := by
  obtain ⟨hKnown, hStands⟩ := (h n).1 ⟨hn.known, hn.stands⟩
  refine ⟨hKnown, hStands, fun m hm hm' => ?_⟩
  obtain ⟨hOther, hThere⟩ := (h m).2 ⟨hm, hm'⟩
  exact hn.longest m hOther hThere

/-- Where the same known names stand, the same name is the longest. -/
theorem isLongest_congr (h : ∀ m, String.ofList m ∈ names ∧ StandsAt bounded s m ↔
    String.ofList m ∈ names' ∧ StandsAt bounded s' m) (n : List Char) :
    IsLongest names bounded s n ↔ IsLongest names' bounded s' n :=
  ⟨fun hn => hn.congr h, fun hn => hn.congr fun m => (h m).symm⟩

/-! Names that a text does not mention. -/

/-- A name is mentioned where it stands behind a marker, whatever else stands there. The empty name is
never mentioned. -/
def Mentions (s n : List Char) : Prop := n ≠ [] ∧ marker :: n <:+: s

theorem mentions_of_reference {n : List Char}
    (h : .reference n ∈ (Pattern.build names bounded).pieces s) : Mentions s n := by
  refine ⟨(mem_canonical_iff.1 (Pattern.mem_names_of_reference h)).1, ?_⟩
  have hText := List.infix_of_mem_flatten (List.mem_map_of_mem h : Piece.text (.reference n) ∈ _)
  rwa [← List.flatMap_def, Pattern.text_pieces] at hText

theorem Mentions.mono {t n : List Char} (h : Mentions s n) (hPart : s <:+: t) : Mentions t n :=
  ⟨h.1, h.2.trans hPart⟩

theorem Pattern.referenceAt?_build_congr {c : Char}
    (h : c = marker → ∀ m, String.ofList m ∈ names ∧ StandsAt bounded s m ↔
      String.ofList m ∈ names' ∧ StandsAt bounded s m) :
    (build names bounded).referenceAt? (c :: s) = (build names' bounded).referenceAt? (c :: s) := by
  apply Option.ext
  rintro ⟨n, after⟩
  rw [referenceAt?_build_iff, referenceAt?_build_iff]
  refine and_congr_right fun hMarker => and_congr_left fun _ => ?_
  exact isLongest_congr (h hMarker) n

/-- Only the names that a text mentions matter for its pieces. -/
theorem Pattern.pieces_congr
    (h : ∀ n, Mentions s n → (String.ofList n ∈ names ↔ String.ofList n ∈ names')) :
    (build names bounded).pieces s = (build names' bounded).pieces s := by
  -- At the head of a text, only names that the text goes on with are asked for.
  have hHead : ∀ c rest, (∀ n, Mentions (c :: rest) n →
      (String.ofList n ∈ names ↔ String.ofList n ∈ names')) →
      (build names bounded).referenceAt? (c :: rest) =
        (build names' bounded).referenceAt? (c :: rest) := by
    intro c rest hNames
    apply referenceAt?_build_congr
    rintro rfl m
    refine and_congr_left fun hStands => hNames m ⟨hStands.1, ?_⟩
    exact (List.cons_prefix_cons.2 ⟨rfl, hStands.2.1⟩).isInfix
  induction s using text_induction (build names bounded) with
  | nil => rw [pieces_nil, pieces_nil]
  | reference n after hFound ih =>
      rw [List.cons_append] at hFound h ⊢
      have hSame := (hHead marker (n ++ after) h).symm.trans hFound
      rw [pieces_of_reference hFound, pieces_of_reference hSame, ih]
      intro m hMentioned
      exact h m (hMentioned.mono (List.suffix_append (marker :: n) after).isInfix)
  | plain c rest hFound ih =>
      have hSame := (hHead c rest h).symm.trans hFound
      rw [pieces_of_plain hFound, pieces_of_plain hSame, ih]
      intro m hMentioned
      exact h m (hMentioned.mono (List.suffix_cons c rest).isInfix)

section

variable {text : String}
  (h : ∀ n, Mentions text.toList n → (String.ofList n ∈ names ↔ String.ofList n ∈ names'))
include h

theorem has_congr : has names text bounded = has names' text bounded := by
  rw [has, has, Pattern.occurs_eq, Pattern.occurs_eq, Pattern.pieces_congr h]

theorem find_congr : find names text bounded = find names' text bounded := by
  rw [find, find, Pattern.tokens_eq, Pattern.tokens_eq, Pattern.pieces_congr h]

end

/-! Places at which a text may be cut. -/

/-- A character before which a text may be cut: no name holds it, and under the boundary rule no word
goes on with it. The empty name holds no character. -/
structure CutsBefore (names : List String) (bounded : Bool) (c : Char) : Prop where
  absent : ∀ n ∈ names, c ∉ n.toList
  ends : bounded = true → Text.isWord c = false

/-- The marker is such a character if it is in no name. -/
theorem cutsBefore_marker (h : ∀ n ∈ names, marker ∉ n.toList) : CutsBefore names bounded marker :=
  ⟨h, fun _ => Text.isWord_hash⟩

/-- What a text goes on with before a character that it does not hold ends before that character. -/
theorem prefix_of_prefix_append {n t : List Char} {c : Char} (h : n <+: s ++ c :: t) (hAbsent : c ∉ n) :
    n <+: s := by
  rcases Nat.lt_or_ge s.length n.length with hLong | hShort
  · have hBeyond : s ++ [c] <+: n := by
      refine List.prefix_of_prefix_length_le ⟨t, ?_⟩ h ?_
      · rw [List.append_assoc, List.singleton_append]
      · rw [List.length_append, List.length_singleton]
        exact hLong
    exact (hAbsent (hBeyond.subset (by simp))).elim
  · exact List.prefix_of_prefix_length_le h (List.prefix_append _ _) hShort

/-- The end of the text allows what a character does that no word goes on with. -/
theorem endsBefore_append {c : Char} (h : bounded = true → Text.isWord c = false)
    (rest t : List Char) : endsBefore bounded (rest ++ c :: t) = endsBefore bounded rest := by
  cases rest with
  | nil =>
      cases bounded with
      | false => rfl
      | true => simp [endsBefore, h rfl]
  | cons d rest => rfl

namespace CutsBefore

variable {c : Char} (h : CutsBefore names bounded c)
include h

/-- A name stands in the first part of a text that is cut as it does in the whole. -/
theorem standsAt_append_iff {n : List Char} (hKnown : String.ofList n ∈ names) (t : List Char) :
    StandsAt bounded (s ++ c :: t) n ↔ StandsAt bounded s n := by
  have hAbsent : c ∉ n := by simpa using h.absent _ hKnown
  by_cases hInside : n <+: s
  · obtain ⟨rest, rfl⟩ := hInside
    rw [List.append_assoc, Reference.standsAt_append_iff, Reference.standsAt_append_iff,
      endsBefore_append h.ends]
  · refine iff_of_false (fun hStands => ?_) fun hStands => hInside hStands.2.1
    exact hInside (prefix_of_prefix_append hStands.2.1 hAbsent)

theorem isLongest_append_iff (n t : List Char) :
    IsLongest names bounded (s ++ c :: t) n ↔ IsLongest names bounded s n :=
  isLongest_congr (fun _ => and_congr_right fun hKnown => h.standsAt_append_iff hKnown t) n

/-- The pieces of a text that is cut are those of its parts. -/
theorem pieces_append (s t : List Char) :
    (Pattern.build names bounded).pieces (s ++ c :: t) =
      (Pattern.build names bounded).pieces s ++ (Pattern.build names bounded).pieces (c :: t) := by
  induction s using Pattern.text_induction (Pattern.build names bounded) with
  | nil => rw [Pattern.pieces_nil, List.nil_append, List.nil_append]
  | reference n after hFound ih =>
      rw [List.cons_append] at hFound ⊢
      obtain ⟨_, hLongest, _⟩ := Pattern.referenceAt?_build_iff.1 hFound
      have hWhole : (Pattern.build names bounded).referenceAt? (marker :: (n ++ after ++ c :: t)) =
          some (n, after ++ c :: t) := by
        refine Pattern.referenceAt?_build_iff.2 ⟨rfl, (h.isLongest_append_iff n t).2 hLongest, ?_⟩
        rw [List.append_assoc, List.drop_left]
      rw [List.cons_append, Pattern.pieces_of_reference hWhole, Pattern.pieces_of_reference hFound,
        ih, List.cons_append]
  | plain d rest hFound ih =>
      have hWhole : (Pattern.build names bounded).referenceAt? (d :: (rest ++ c :: t)) = none := by
        rw [Pattern.referenceAt?_build_eq_none_iff] at hFound ⊢
        intro hMarker n hLongest
        exact hFound hMarker n ((h.isLongest_append_iff n t).1 hLongest)
      rw [List.cons_append, Pattern.pieces_of_plain hWhole, Pattern.pieces_of_plain hFound, ih,
        List.cons_append]

end CutsBefore

end Shorthand.Reference
