import IpBlocks.Text.Bytes

namespace IpBlocks

/-!
# Texts of whole lines

Behind a line feed the lines of a text start anew (`Text.lines_ended_append`).
So a text that is empty or ends with a line feed has its own lines in front when
another text follows it, and what is put together from such texts has their
lines one after another.
-/

namespace Text

/-- A text that is empty, or that ends with a line feed. -/
inductive IsEnded : String → Prop where
  | empty : IsEnded ""
  | ended (front : String) : IsEnded (front ++ "\n")

theorem lines_empty :
    lines "" = [] := by
  decide

/-- Lines in front of a line feed do not depend on what is behind it. -/
theorem lines_ended_append (front back : String) :
    lines (front ++ "\n" ++ back) =
      ((front.toList.splitOn '\n').map withoutReturn).map String.ofList ++
        lines back := by
  have cut :
      (front ++ "\n" ++ back).toList.splitOn '\n' =
        front.toList.splitOn '\n' ++ back.toList.splitOn '\n' := by
    rw [String.toList_append, String.toList_append, List.append_assoc]
    exact List.splitOn_append_cons_self front.toList back.toList
  have some : back.toList.splitOn '\n' ≠ [] :=
    List.splitOn_ne_nil '\n' back.toList
  simp only [lines, cut, List.dropLast_append_of_ne_nil some,
    List.getLast?_append, List.getLast?_eq_some_getLast some, Option.some_or,
    List.map_append, List.append_assoc]

/-- A line without line breaks in it is the one line of its text. -/
theorem lines_ended
    {line : String}
    (noFeed : '\n' ∉ line.toList)
    (noReturn : '\r' ∉ line.toList) :
    lines (line ++ "\n") = [line] := by
  have kept : withoutReturn line.toList = line.toList := by
    rw [withoutReturn, if_neg]
    intro last
    exact noReturn (List.mem_of_getLast? last)
  have cut := lines_ended_append line ""
  rw [String.append_empty, lines_empty, List.splitOn_eq_singleton noFeed,
    List.map_singleton, kept, List.map_singleton, String.ofList_toList] at cut
  exact cut

namespace IsEnded

variable {front back : String}

theorem append
    (frontEnded : IsEnded front)
    (backEnded : IsEnded back) :
    IsEnded (front ++ back) := by
  cases backEnded with
  | empty =>
      rw [String.append_empty]
      exact frontEnded
  | ended inner =>
      rw [← String.append_assoc]
      exact .ended (front ++ inner)

theorem join
    {texts : List String}
    (ended : ∀ text ∈ texts, IsEnded text) :
    IsEnded (String.join texts) := by
  induction texts with
  | nil =>
      exact .empty
  | cons text rest inductionHypothesis =>
      obtain ⟨textEnded, restEnded⟩ := List.forall_mem_cons.mp ended
      rw [String.join_cons]
      exact textEnded.append (inductionHypothesis restEnded)

/-- The lines of an ended text stand before those of what follows it. -/
theorem lines_append
    (ended : IsEnded front)
    (back : String) :
    lines (front ++ back) = lines front ++ lines back := by
  cases ended with
  | empty =>
      rw [String.empty_append, lines_empty, List.nil_append]
  | ended inner =>
      have alone := lines_ended_append inner ""
      rw [String.append_empty, lines_empty, List.append_nil] at alone
      rw [lines_ended_append, alone]

end IsEnded

/-- A text that consists of lines, each with a line feed behind it and none within it. -/
structure ConsistsOfLines (text : String) (lines : List String) : Prop where
  whole : text = String.join (lines.map fun line => line ++ "\n")
  unbroken : ∀ line ∈ lines, '\n' ∉ line.toList

/-- An ended text in front adds its own line feed to those within it. -/
theorem count_ended_append (front back : String) :
    (front ++ "\n" ++ back).toList.count '\n' =
      front.toList.count '\n' + 1 + back.toList.count '\n' := by
  have ended : "\n".toList.count '\n' = 1 := by
    decide
  rw [String.toList_append, String.toList_append, List.count_append,
    List.count_append, ended]

/-- There are at least as many line feeds as ended texts. -/
theorem length_le_count_join (texts : List String) :
    texts.length ≤
      (String.join (texts.map fun text => text ++ "\n")).toList.count '\n' := by
  induction texts with
  | nil =>
      exact Nat.zero_le _
  | cons text rest inductionHypothesis =>
      rw [List.map_cons, String.join_cons, count_ended_append,
        List.length_cons]
      omega

/-- There are as many line feeds as ended texts exactly if none is within a text. -/
theorem count_join_eq_length_iff {texts : List String} :
    (String.join (texts.map fun text => text ++ "\n")).toList.count '\n' =
        texts.length ↔
      ∀ text ∈ texts, '\n' ∉ text.toList := by
  induction texts with
  | nil =>
      simp
  | cons text rest inductionHypothesis =>
      have atLeast := length_le_count_join rest
      rw [List.map_cons, String.join_cons, count_ended_append,
        List.length_cons, List.forall_mem_cons, ← inductionHypothesis,
        ← List.count_eq_zero]
      omega

/-- A text has as many line feeds as lines. -/
theorem ConsistsOfLines.count_eq
    {text : String}
    {lines : List String}
    (consists : ConsistsOfLines text lines) :
    text.toList.count '\n' = lines.length := by
  rw [consists.whole]
  exact count_join_eq_length_iff.mpr consists.unbroken

/-- Texts that hold no line break are found again as lines. -/
theorem lines_join
    {texts : List String}
    (unbroken :
      ∀ text ∈ texts, '\n' ∉ text.toList ∧ '\r' ∉ text.toList) :
    lines (String.join (texts.map fun text => text ++ "\n")) = texts := by
  induction texts with
  | nil =>
      exact lines_empty
  | cons text rest inductionHypothesis =>
      have single := unbroken text List.mem_cons_self
      have restUnbroken :
          ∀ other ∈ rest, '\n' ∉ other.toList ∧ '\r' ∉ other.toList :=
        fun other member => unbroken other (List.mem_cons_of_mem text member)
      rw [List.map_cons, String.join_cons, (IsEnded.ended text).lines_append,
        lines_ended single.1 single.2, inductionHypothesis restUnbroken]
      rfl

end Text

end IpBlocks
