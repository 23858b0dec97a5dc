import IpBlocks.CommandLine
import IpBlocks.Proofs.Outcome
import IpBlocks.Proofs.Text.Spelling
import Mathlib.Data.List.Forall2
import Mathlib.Data.List.Nodup

namespace IpBlocks

/-!
# Switches

An argument behind the command is the mark that ends the switches, a word, or
names switches: one by its name behind two hyphens, or several by their letters
behind one (`CommandLine.Names`).  The reader tells these three kinds apart and
finds the switches that an argument names.

Switches are noted one after another.  They are all noted if each of them
configures a run and none is noted twice (`CommandLine.Given.addAll_eq_ok_iff`);
what is noted then does not depend on their order, but for the order of the
modes.
-/

namespace CommandLine

/-- The switches that configure a run, each with its letter and its name. -/
inductive Switch.Named : Switch → Char → String → Prop where
  | verbose : Named .verbose 'v' "verbose"
  | binary : Named (.mode (.styled .binary)) 'b' "binary"
  | octal : Named (.mode (.styled .octal)) 'o' "octal"
  | decimal : Named (.mode (.styled .decimal)) 'd' "decimal"
  | hex : Named (.mode (.styled .hex)) 'x' "hex"
  | cisco : Named (.mode (.styled .cisco)) 'i' "cisco"
  | range : Named (.mode .range) 'r' "range"
  | cidr : Named (.mode .cidr) 'c' "cidr"

/-- An argument names one switch in full, or at least one by a letter each. -/
inductive Names : String → List Switch → Prop where
  | inFull
      {switch : Switch}
      {letter : Char}
      {name : String}
      (named : switch.Named letter name) :
      Names ("--" ++ name) [switch]
  | byLetters
      {letters : List Char}
      {switches : List Switch}
      (some : letters ≠ [])
      (named :
        List.Forall₂
          (fun letter switch => ∃ name, Switch.Named switch letter name)
          letters switches) :
      Names (String.ofList ('-' :: letters)) switches

/-- A word does not start with a hyphen, unless it is a lone hyphen. -/
def IsWord (argument : String) : Prop :=
  argument = "-" ∨ argument.toList.head? ≠ some '-'

namespace Switch

/-- Whether a switch configures a run, instead of asking about the program. -/
def configures : Switch → Bool
  | verbose | mode _ => true
  | help | version => false

/-- The mode that a switch chooses. -/
def chosen? : Switch → Option Mode
  | mode chosen => some chosen
  | _ => none

/-- Switches that configure a run are named by their own letters and names. -/
theorem named_iff {switch : Switch} {letter : Char} {name : String} :
    switch.Named letter name ↔
      switch.configures = true ∧
        switch.letter = letter ∧ switch.longName = name := by
  constructor
  · intro named
    cases named <;> exact ⟨rfl, rfl, rfl⟩
  · rintro ⟨configures, rfl, rfl⟩
    match switch with
    | .verbose => exact .verbose
    | .mode .cidr => exact .cidr
    | .mode .range => exact .range
    | .mode (.styled .binary) => exact .binary
    | .mode (.styled .octal) => exact .octal
    | .mode (.styled .decimal) => exact .decimal
    | .mode (.styled .hex) => exact .hex
    | .mode (.styled .cisco) => exact .cisco

/-- A switch is found by a letter only if the letter is its own. -/
theorem ofLetter_sound
    {known : List Switch}
    {letter : Char}
    {switch : Switch}
    (found : ofLetter known letter = .ok switch) :
    switch ∈ known ∧ switch.letter = letter := by
  rw [ofLetter] at found
  split at found
  · rename_i search
    cases found
    exact
      ⟨List.mem_of_find?_eq_some search, by
        simpa using List.find?_some search⟩
  · cases found

/-- A switch is found by a name only if the name is its own. -/
theorem ofLongName_sound
    {known : List Switch}
    {text : List Char}
    {switch : Switch}
    (found : ofLongName known text = .ok switch) :
    switch ∈ known ∧ switch.longName.toList = text := by
  rw [ofLongName] at found
  cases cut : Text.cut? '=' text with
  | none =>
      simp only [cut] at found
      split at found
      · rename_i search
        cases found
        exact
          ⟨List.mem_of_find?_eq_some search, by
            simpa using List.find?_some search⟩
      · cases found
  | some parts =>
      simp only [cut] at found
      split at found <;> cases found

/-- Behind the command, switches that configure a run are found by letter. -/
theorem ofLetter_letter
    {switch : Switch}
    (configures : switch.configures = true) :
    ofLetter behindCommand switch.letter = .ok switch := by
  match switch with
  | .verbose => rfl
  | .mode .cidr => rfl
  | .mode .range => rfl
  | .mode (.styled style) => cases style <;> rfl

/-- Behind the command, switches that configure a run are found by name. -/
theorem ofLongName_longName
    {switch : Switch}
    (configures : switch.configures = true) :
    ofLongName behindCommand switch.longName.toList = .ok switch := by
  match switch with
  | .verbose => decide
  | .mode .cidr => decide
  | .mode .range => decide
  | .mode (.styled style) => cases style <;> decide

/-- Before the command, only one switch configures a run. -/
theorem eq_verbose_of_mem_beforeCommand
    {switch : Switch}
    (member : switch ∈ beforeCommand)
    (configures : switch.configures = true) :
    switch = .verbose := by
  simp only [beforeCommand, List.mem_cons, List.not_mem_nil, or_false]
    at member
  rcases member with rfl | rfl | rfl
  · rfl
  · cases configures
  · cases configures

/-- A switch that chooses a mode stands as often as its mode is chosen. -/
theorem count_mode (chosen : Mode) (switches : List Switch) :
    switches.count (mode chosen) =
      (switches.filterMap chosen?).count chosen := by
  induction switches with
  | nil =>
      rfl
  | cons switch rest inductionHypothesis =>
      cases switch <;>
        simp [chosen?, List.count_cons, List.filterMap_cons,
          inductionHypothesis]

/-- If one mode is chosen at most, only the switch for verbosity may repeat. -/
theorem nodup_iff
    {switches : List Switch}
    (configure : ∀ switch ∈ switches, switch.configures = true)
    (single : (switches.filterMap chosen?).length ≤ 1) :
    switches.Nodup ↔ switches.count verbose ≤ 1 := by
  rw [List.nodup_iff_count_le_one]
  constructor
  · intro once
    exact once verbose
  · intro once switch
    match switch with
    | .verbose =>
        exact once
    | .mode chosen =>
        rw [count_mode]
        exact List.count_le_length.trans single
    | .help | .version =>
        rw [List.count_eq_zero_of_not_mem]
        · exact Nat.zero_le 1
        · intro member
          cases configure _ member

end Switch

namespace Argument

variable {known : List Switch} {argument : String}

/-- Two hyphens end the switches. -/
theorem classify_eq_terminator_iff :
    classify known argument = .terminator ↔ argument = "--" := by
  rw [← String.toList_inj, classify]
  split <;> simp_all

/-- What is no word starts with a hyphen and goes on behind it. -/
theorem classify_eq_word_iff :
    classify known argument = .word ↔ IsWord argument := by
  rw [IsWord, ← String.toList_inj, classify]
  split
  · simp_all
  · simp_all
  · simp_all
  · rename_i noLetters
    cases text : argument.toList with
    | nil =>
        simp
    | cons first rest =>
        cases rest with
        | nil =>
            simp [or_not]
        | cons second others =>
            have noHyphen : first ≠ '-' := by
              rintro rfl
              exact noLetters second others text
            simp [noHyphen]

/-- A name behind two hyphens names one switch. -/
theorem classify_name
    {name : List Char}
    (some : name ≠ []) :
    classify known (String.ofList ('-' :: '-' :: name)) =
      .switches [Switch.ofLongName known name] := by
  obtain ⟨first, rest, rfl⟩ := List.exists_cons_of_ne_nil some
  simp only [classify, String.toList_ofList]

/-- Letters behind one hyphen name one switch each. -/
theorem classify_letters
    {letter : Char}
    {letters : List Char}
    (noHyphen : letter ≠ '-') :
    classify known (String.ofList ('-' :: letter :: letters)) =
      .switches ((letter :: letters).map (Switch.ofLetter known)) := by
  simp only [classify, String.toList_ofList]
  split <;> simp_all

/-- Arguments that name switches are read as naming these switches. -/
theorem classify_of_names
    {switches : List Switch}
    (names : Names argument switches) :
    classify Switch.behindCommand argument =
      .switches (switches.map .ok) := by
  cases names with
  | @inFull switch letter name named =>
      obtain ⟨configures, -, rfl⟩ := Switch.named_iff.mp named
      have text :
          "--" ++ switch.longName =
            String.ofList ('-' :: '-' :: switch.longName.toList) := by
        apply String.toList_inj.mp
        simp
      have nonempty : switch.longName.toList ≠ [] := by
        cases named <;> decide
      rw [text, classify_name nonempty,
        Switch.ofLongName_longName configures]
      rfl
  | @byLetters letters switches some named =>
      obtain ⟨letter, others, rfl⟩ := List.exists_cons_of_ne_nil some
      have found :
          List.Forall₂
            (fun letter switch =>
              Switch.ofLetter Switch.behindCommand letter = .ok switch)
            (letter :: others) switches := by
        apply named.imp
        rintro letter switch ⟨name, named⟩
        obtain ⟨configures, rfl, -⟩ := Switch.named_iff.mp named
        exact Switch.ofLetter_letter configures
      have noHyphen : letter ≠ '-' := by
        cases named with
        | cons first _ =>
            obtain ⟨name, named⟩ := first
            cases named <;> decide
      rw [classify_letters noHyphen]
      congr 1
      rw [← List.forall₂_eq_eq_eq, List.forall₂_map_left_iff,
        List.forall₂_map_right_iff]
      exact found

/-- What is read as naming switches that configure a run names them. -/
theorem names_of_classify
    {switches : List Switch}
    (classified : classify known argument = .switches (switches.map .ok))
    (configure : ∀ switch ∈ switches, switch.configures = true) :
    Names argument switches := by
  rw [classify] at classified
  split at classified
  · cases classified
  · rename_i name notTerminator text
    rw [Argument.switches.injEq] at classified
    obtain ⟨switch, rfl, found⟩ :=
      List.map_eq_singleton_iff.mp classified.symm
    obtain ⟨-, rfl⟩ := Switch.ofLongName_sound found.symm
    have inFull : argument = "--" ++ switch.longName := by
      apply String.toList_inj.mp
      simp [text]
    rw [inFull]
    exact
      .inFull
        (Switch.named_iff.mpr
          ⟨configure switch (List.mem_singleton_self switch), rfl, rfl⟩)
  · rename_i letter letters noTerminator noName text
    rw [Argument.switches.injEq, ← List.forall₂_eq_eq_eq,
      List.forall₂_map_left_iff, List.forall₂_map_right_iff] at classified
    have byLetters :
        argument = String.ofList ('-' :: letter :: letters) := by
      apply String.toList_inj.mp
      simp [text]
    rw [byLetters]
    refine .byLetters (List.cons_ne_nil letter letters) ?_
    have found :=
      (List.forall₂_and_left switches (letter :: letters)).mpr
        ⟨configure, classified.flip⟩
    apply found.flip.imp
    rintro letter switch ⟨configures, isFound⟩
    obtain ⟨-, rfl⟩ := Switch.ofLetter_sound isFound
    exact ⟨switch.longName, Switch.named_iff.mpr ⟨configures, rfl, rfl⟩⟩
  · cases classified

/-- An argument names switches that are known where it stands. -/
theorem mem_known_of_classify
    {named : List (Except Refusal Switch)}
    (classified : classify known argument = .switches named)
    {switch : Switch}
    (member : .ok switch ∈ named) :
    switch ∈ known := by
  rw [classify] at classified
  split at classified
  · cases classified
  · cases classified
    exact (Switch.ofLongName_sound (List.mem_singleton.mp member).symm).1
  · cases classified
    obtain ⟨letter, -, found⟩ := List.mem_map.mp member
    exact (Switch.ofLetter_sound found).1
  · cases classified

/-- Every argument that names switches names some. -/
theorem ne_nil_of_names
    {switches : List Switch}
    (names : Names argument switches) :
    switches ≠ [] := by
  cases names with
  | inFull named =>
      exact List.cons_ne_nil _ _
  | byLetters some named =>
      rintro rfl
      exact some (List.forall₂_nil_right_iff.mp named)

/-- The switches that an argument names configure a run. -/
theorem configures_of_names
    {switches : List Switch}
    (names : Names argument switches)
    {switch : Switch}
    (member : switch ∈ switches) :
    switch.configures = true := by
  cases names with
  | inFull named =>
      rw [List.mem_singleton.mp member]
      exact (Switch.named_iff.mp named).1
  | byLetters some named =>
      obtain ⟨letter, -, name, itsName⟩ :=
        exists_related_of_mem named.flip member
      exact (Switch.named_iff.mp itsName).1

end Argument

namespace Given

/-- Whether a switch is noted. -/
def notes (given : Given) : Switch → Bool
  | .verbose => given.verbose
  | .mode chosen => decide (chosen ∈ given.modes)
  | .help | .version => false

/-- What is noted after some further switches. -/
def extend (given : Given) (switches : List Switch) : Given where
  verbose :=
    given.verbose || decide (.verbose ∈ switches)
  modes :=
    given.modes ++ switches.filterMap Switch.chosen?

theorem extend_nil (given : Given) :
    given.extend [] = given := by
  simp [extend]

theorem extend_append (given : Given) (front back : List Switch) :
    (given.extend front).extend back = given.extend (front ++ back) := by
  simp [extend, Bool.or_assoc]

/-- After a further switch that switch is noted as well. -/
theorem notes_extend_singleton
    {given : Given}
    {switch other : Switch}
    (configures : switch.configures = true) :
    (given.extend [switch]).notes other =
      (given.notes other || decide (other = switch)) := by
  match switch, other with
  | .verbose, .verbose => simp [notes, extend]
  | .verbose, .mode _ => simp [notes, extend, Switch.chosen?]
  | .verbose, .help => rfl
  | .verbose, .version => rfl
  | .mode _, .verbose => simp [notes, extend]
  | .mode _, .mode _ => simp [notes, extend, Switch.chosen?]
  | .mode _, .help => rfl
  | .mode _, .version => rfl

/-- A switch is noted unless it is noted already. -/
theorem add_eq
    (given : Given)
    {switch : Switch}
    (configures : switch.configures = true) :
    given.add (.ok switch) =
      if given.notes switch then .error .conflict
      else .ok (given.extend [switch]) := by
  match switch with
  | .verbose =>
      cases noted : given.verbose <;>
        simp [add, notes, extend, noted, Switch.chosen?]
  | .mode chosen =>
      simp [add, notes, extend, Switch.chosen?]

/-- Only switches that configure a run are ever noted. -/
theorem exists_switch_of_add
    {given extended : Given}
    {named : Except Refusal Switch}
    (added : given.add named = .ok extended) :
    ∃ switch, named = .ok switch ∧ switch.configures = true := by
  match named with
  | .error refusal => cases added
  | .ok .help => cases added
  | .ok .version => cases added
  | .ok .verbose => exact ⟨.verbose, rfl, rfl⟩
  | .ok (.mode chosen) => exact ⟨.mode chosen, rfl, rfl⟩

theorem addAll_append
    (given : Given)
    (front back : List (Except Refusal Switch)) :
    given.addAll (front ++ back) =
      given.addAll front >>= fun extended => extended.addAll back :=
  List.foldlM_append

/-- Switches are noted if all of them are new and none stands twice. -/
theorem addAll_eq
    (given : Given)
    {switches : List Switch}
    (configure : ∀ switch ∈ switches, switch.configures = true) :
    given.addAll (switches.map .ok) =
      if switches.Nodup ∧ ∀ switch ∈ switches, given.notes switch = false
      then .ok (given.extend switches)
      else .error .conflict := by
  induction switches generalizing given with
  | nil =>
      simp [addAll, extend_nil]
      rfl
  | cons switch rest inductionHypothesis =>
      have configures := configure switch List.mem_cons_self
      have restConfigure :
          ∀ other ∈ rest, other.configures = true :=
        fun other member =>
          configure other (List.mem_cons_of_mem switch member)
      have step :
          given.addAll ((switch :: rest).map .ok) =
            given.add (.ok switch) >>= fun extended =>
              extended.addAll (rest.map .ok) :=
        rfl
      rw [step, given.add_eq configures]
      cases noted : given.notes switch with
      | true =>
          simp [noted]
      | false =>
          have condition :
              (rest.Nodup ∧ ∀ other ∈ rest,
                  (given.extend [switch]).notes other = false) ↔
                (switch :: rest).Nodup ∧ ∀ other ∈ switch :: rest,
                  given.notes other = false := by
            simp only [notes_extend_singleton configures,
              Bool.or_eq_false_iff, decide_eq_false_iff_not,
              List.nodup_cons, List.forall_mem_cons, noted, true_and]
            constructor
            · rintro ⟨distinct, new⟩
              refine ⟨⟨?_, distinct⟩, fun other member => (new other member).1⟩
              intro again
              exact (new switch again).2 rfl
            · rintro ⟨⟨once, distinct⟩, new⟩
              refine ⟨distinct, fun other member => ⟨new other member, ?_⟩⟩
              rintro rfl
              exact once member
          simp only [Bool.false_eq_true, if_false, Outcome.ok_bind,
            inductionHypothesis _ restConfigure, condition, extend_append,
            List.singleton_append]

theorem addAll_eq_ok_iff
    {given final : Given}
    {switches : List Switch}
    (configure : ∀ switch ∈ switches, switch.configures = true) :
    given.addAll (switches.map .ok) = .ok final ↔
      switches.Nodup ∧
        (∀ switch ∈ switches, given.notes switch = false) ∧
          given.extend switches = final := by
  rw [given.addAll_eq configure, ← and_assoc]
  split
  · rename_i condition
    rw [Except.ok.injEq, and_iff_right condition]
  · rename_i condition
    simp only [condition, false_and, reduceCtorEq]

/-- Where nothing is noted before, switches are noted unless one stands twice. -/
theorem addAll_nothing
    {switches : List Switch}
    (configure : ∀ switch ∈ switches, switch.configures = true) :
    nothing.addAll (switches.map .ok) =
      if switches.Nodup then .ok (nothing.extend switches)
      else .error .conflict := by
  have new : ∀ switch ∈ switches, nothing.notes switch = false := by
    intro switch _
    cases switch <;> rfl
  simp only [nothing.addAll_eq configure, and_iff_left new]

/-- If switches are noted, then all of them are known and configure a run. -/
theorem exists_switches_of_addAll
    {given final : Given}
    {named : List (Except Refusal Switch)}
    (added : given.addAll named = .ok final) :
    ∃ switches : List Switch,
      named = switches.map .ok ∧
        ∀ switch ∈ switches, switch.configures = true := by
  induction named generalizing given with
  | nil =>
      exact ⟨[], rfl, by simp⟩
  | cons first rest inductionHypothesis =>
      have step :
          given.addAll (first :: rest) =
            given.add first >>= fun extended => extended.addAll rest :=
        rfl
      rw [step] at added
      cases firstAdded : given.add first with
      | error refusal =>
          rw [firstAdded] at added
          cases added
      | ok extended =>
          rw [firstAdded] at added
          obtain ⟨switch, rfl, configures⟩ := exists_switch_of_add firstAdded
          obtain ⟨switches, rfl, configure⟩ := inductionHypothesis added
          exact
            ⟨switch :: switches, rfl,
              List.forall_mem_cons.mpr ⟨configures, configure⟩⟩

end Given

end CommandLine

end IpBlocks
