import IpBlocks.Proofs.Text.Padding
import IpBlocks.Text.Name
import Mathlib.Data.List.Forall2

namespace IpBlocks

/-!
# Variants of names

A variant of a text differs from it only in blanks around it and in the case of
the letters A to Z.  Putting a text into its plain form drops exactly these
differences: variants have the same plain form, and a text whose plain form is a
given plain name is a variant of that name (`Text.plainName_eq_iff`).

Letters and blanks never meet, so it does not matter whether the blanks are
dropped before the letters change their case or after.
-/

namespace Text

/-- A capital letter and the small letter at the same place of A to Z. -/
def AreCases (capital small : Char) : Prop :=
  ∃ place < 26,
    capital = Char.ofNat ('A'.toNat + place) ∧
      small = Char.ofNat ('a'.toNat + place)

/-- Two characters that differ at most in the case of a letter A to Z. -/
inductive SameLetter : Char → Char → Prop where
  | same (character : Char) :
      SameLetter character character
  | lowered {capital small : Char} :
      AreCases capital small →
        SameLetter capital small
  | raised {capital small : Char} :
      AreCases capital small →
        SameLetter small capital

/-- Another text is a variant of a text: it adds blanks around it or changes the case of letters. -/
def IsVariant (text other : String) : Prop :=
  ∃ before middle after : List Char,
    IsPadding before ∧
      IsPadding after ∧
        List.Forall₂ SameLetter text.toList middle ∧
          other.toList = before ++ middle ++ after

namespace AreCases

variable {capital small : Char}

/-- What holds at each of the 26 places holds of every letter. -/
theorem of_places
    (property : Char → Char → Prop)
    (holds :
      ∀ place < 26,
        property (Char.ofNat ('A'.toNat + place))
          (Char.ofNat ('a'.toNat + place)))
    (areCases : AreCases capital small) :
    property capital small := by
  obtain ⟨place, isPlace, rfl, rfl⟩ := areCases
  exact holds place isPlace

theorem toLower_capital :
    AreCases capital small → capital.toLower = small :=
  of_places (fun capital small => capital.toLower = small) (by decide)

theorem toLower_small :
    AreCases capital small → small.toLower = small :=
  of_places (fun _ small => small.toLower = small) (by decide)

theorem toUpper_small :
    AreCases capital small → small.toUpper = capital :=
  of_places (fun capital small => small.toUpper = capital) (by decide)

/-- A letter is no blank in either case. -/
theorem isBlank_eq_false :
    AreCases capital small →
      isBlank capital = false ∧ isBlank small = false :=
  of_places
    (fun capital small => isBlank capital = false ∧ isBlank small = false)
    (by decide)

end AreCases

/-- Only the letters A to Z change in lower case. -/
theorem areCases_toLower_or_eq (character : Char) :
    AreCases character character.toLower ∨
      character.toLower = character := by
  by_cases capital :
      'A'.toNat ≤ character.toNat ∧ character.toNat ≤ 'Z'.toNat
  · left
    have isPlace : character.toNat - 'A'.toNat < 26 := by
      have last : 'Z'.toNat = 'A'.toNat + 25 := rfl
      omega
    have isCharacter :
        character = Char.ofNat ('A'.toNat + (character.toNat - 'A'.toNat)) := by
      rw [Nat.add_sub_cancel' capital.1, Char.ofNat_toNat]
    have areCases :
        AreCases character
          (Char.ofNat ('a'.toNat + (character.toNat - 'A'.toNat))) :=
      ⟨_, isPlace, isCharacter, rfl⟩
    rw [areCases.toLower_capital]
    exact areCases
  · right
    exact dif_neg capital

theorem toLower_toLower (character : Char) :
    character.toLower.toLower = character.toLower := by
  rcases areCases_toLower_or_eq character with areCases | kept
  · exact areCases.toLower_small
  · rw [kept, kept]

theorem isBlank_toLower (character : Char) :
    isBlank character.toLower = isBlank character := by
  rcases areCases_toLower_or_eq character with areCases | kept
  · rw [areCases.isBlank_eq_false.1, areCases.isBlank_eq_false.2]
  · rw [kept]

/-- Characters differ at most in case exactly if they are the same in lower case. -/
theorem sameLetter_iff {one other : Char} :
    SameLetter one other ↔ one.toLower = other.toLower := by
  constructor
  · intro sameLetter
    cases sameLetter with
    | same =>
        rfl
    | lowered areCases =>
        rw [areCases.toLower_capital, areCases.toLower_small]
    | raised areCases =>
        rw [areCases.toLower_capital, areCases.toLower_small]
  · intro same
    rcases areCases_toLower_or_eq one with areCases | kept
    · rw [same] at areCases
      rcases areCases_toLower_or_eq other with otherAreCases | otherKept
      · have sameCharacter : one = other :=
          areCases.toUpper_small.symm.trans otherAreCases.toUpper_small
        subst one
        exact .same other
      · rw [otherKept] at areCases
        exact .lowered areCases
    · rw [kept] at same
      subst one
      rcases areCases_toLower_or_eq other with otherAreCases | otherKept
      · exact .raised otherAreCases
      · rw [otherKept]
        exact .same other

theorem forall₂_sameLetter_iff {one other : List Char} :
    List.Forall₂ SameLetter one other ↔
      one.map Char.toLower = other.map Char.toLower := by
  have sameLetter :
      SameLetter = fun one other => one.toLower = other.toLower :=
    funext₂ fun _ _ => propext sameLetter_iff
  rw [sameLetter, ← List.forall₂_eq_eq_eq, List.forall₂_map_left_iff,
    List.forall₂_map_right_iff]

/-- Blanks at the end are dropped alike before and after a change of case. -/
theorem trimEnd_map_toLower (text : List Char) :
    trimEnd (text.map Char.toLower) = (trimEnd text).map Char.toLower := by
  induction text with
  | nil =>
      rfl
  | cons head rest inductionHypothesis =>
      rw [List.map_cons, trimEnd, trimEnd, inductionHypothesis,
        isBlank_toLower]
      cases trimEnd rest with
      | nil =>
          cases isBlank head <;> rfl
      | cons =>
          rfl

theorem trim_map_toLower (text : List Char) :
    trim (text.map Char.toLower) = (trim text).map Char.toLower := by
  have sameBlanks : isBlank ∘ Char.toLower = isBlank :=
    funext isBlank_toLower
  rw [trim, List.dropWhile_map, sameBlanks, trimEnd_map_toLower, trim]

theorem toList_plainName (text : String) :
    (plainName text).toList = (trim text.toList).map Char.toLower := by
  rw [plainName, String.toList_ofList]

/-- A plain name is its own plain form. -/
theorem plainName_plainName (text : String) :
    plainName (plainName text) = plainName text := by
  apply String.toList_inj.mp
  rw [toList_plainName, toList_plainName, trim_map_toLower, trim_trim,
    List.map_map]
  exact List.map_congr_left fun character _ => toLower_toLower character

/-- Variants have the same plain form. -/
theorem IsVariant.plainName_eq
    {text other : String}
    (isVariant : IsVariant text other) :
    plainName other = plainName text := by
  obtain ⟨before, middle, after, beforePadding, afterPadding, sameLetters,
    whole⟩ := isVariant
  rw [forall₂_sameLetter_iff] at sameLetters
  apply String.toList_inj.mp
  rw [toList_plainName, toList_plainName, whole,
    trim_padded beforePadding afterPadding, ← trim_map_toLower,
    ← trim_map_toLower, sameLetters]

/-- The texts with a given plain form are its variants. -/
theorem plainName_eq_iff
    {name : String}
    (plain : plainName name = name)
    {text : String} :
    plainName text = name ↔ IsVariant name text := by
  constructor
  · rintro rfl
    obtain ⟨before, after, beforePadding, afterPadding, whole⟩ :=
      exists_padding text.toList
    refine ⟨before, _, after, beforePadding, afterPadding, ?_, whole⟩
    rw [forall₂_sameLetter_iff, toList_plainName, List.map_map]
    exact List.map_congr_left fun character _ => toLower_toLower character
  · intro isVariant
    rw [isVariant.plainName_eq, plain]

end Text

end IpBlocks
