import IpBlocks.Proofs.CommandLine.Switches
import IpBlocks.Session

namespace IpBlocks

/-!
# The language of command lines

A command line that makes a request consists of a lead, which is empty or asks
for verbose output, the command, and the arguments behind it.  Those are words,
which are targets, and arguments that name switches, up to a mark behind which
everything is a target (`CommandLine.Consists`).

What the reader makes of such a command line depends on its targets in order
and on its switches in any order (`CommandLine.read_eq_of_consists`), and no
other command line makes a request
(`CommandLine.read_follows_grammar`).
-/

namespace CommandLine

/-- Arguments behind the command, with the switches and targets that they give. -/
inductive Consists : List String → List Switch → List String → Prop where
  | nil :
      Consists [] [] []
  | ended (targets : List String) :
      Consists ("--" :: targets) [] targets
  | target
      {argument : String}
      {rest targets : List String}
      {switches : List Switch}
      (word : IsWord argument)
      (others : Consists rest switches targets) :
      Consists (argument :: rest) switches (argument :: targets)
  | switches
      {argument : String}
      {rest targets : List String}
      {named later : List Switch}
      (names : Names argument named)
      (others : Consists rest later targets) :
      Consists (argument :: rest) (named ++ later) targets

/-- What may stand before the command. -/
def leads : List (List String) :=
  [[], ["-v"], ["--verbose"]]

/-- A command line that makes a request, and the parts that it consists of. -/
structure Makes
    (arguments : List String)
    (request : Request)
    (lead behind : List String)
    (switches : List Switch) : Prop where
  whole : arguments = lead ++ "netmask" :: behind
  lead_mem : lead ∈ leads
  consists : Consists behind switches request.targets
  verbose_once : switches.count .verbose ≤ 1
  mode_once : (switches.filterMap Switch.chosen?).length ≤ 1
  targets_ne_nil : request.targets ≠ []
  verbose_iff : request.verbose = true ↔ lead ≠ [] ∨ .verbose ∈ switches
  flag_eq : request.flag = (switches.filterMap Switch.chosen?).head?

namespace Consists

variable
  {arguments targets : List String}
  {switches : List Switch}

/-- The switches behind the command configure a run. -/
theorem configures
    (consists : Consists arguments switches targets) :
    ∀ switch ∈ switches, switch.configures = true := by
  induction consists with
  | nil =>
      simp
  | ended targets =>
      simp
  | target word others inductionHypothesis =>
      exact inductionHypothesis
  | switches names others inductionHypothesis =>
      intro switch member
      rcases List.mem_append.mp member with isNamed | isLater
      · exact Argument.configures_of_names names isNamed
      · exact inductionHypothesis switch isLater

/-- The reader notes the switches one after another, and keeps the targets. -/
theorem readCommand_eq
    (consists : Consists arguments switches targets)
    (given : Given) :
    readCommand given arguments =
      (given.addAll (switches.map .ok)).map fun final => (final, targets) := by
  induction consists generalizing given with
  | nil =>
      rfl
  | ended targets =>
      have terminator :
          Argument.classify Switch.behindCommand "--" = .terminator :=
        Argument.classify_eq_terminator_iff.mpr rfl
      simp only [readCommand, terminator]
      rfl
  | @target argument rest targets switches word others
      inductionHypothesis =>
      have isWord :
          Argument.classify Switch.behindCommand argument = .word :=
        Argument.classify_eq_word_iff.mpr word
      simp only [readCommand, isWord, inductionHypothesis]
      cases given.addAll _ <;> rfl
  | @switches argument rest targets named later names others
      inductionHypothesis =>
      have classified := Argument.classify_of_names names
      simp only [readCommand, classified]
      rw [List.map_append, Given.addAll_append]
      cases given.addAll (named.map .ok) with
      | error refusal =>
          rfl
      | ok extended =>
          exact inductionHypothesis extended

end Consists

/-- What is read behind the command consists of switches and targets. -/
theorem exists_consists
    {given final : Given}
    {arguments targets : List String}
    (read : readCommand given arguments = .ok (final, targets)) :
    ∃ switches, Consists arguments switches targets := by
  induction arguments generalizing given targets with
  | nil =>
      cases read
      exact ⟨[], .nil⟩
  | cons argument rest inductionHypothesis =>
      rw [readCommand] at read
      split at read
      · rename_i classified
        cases read
        rw [Argument.classify_eq_terminator_iff.mp classified]
        exact ⟨[], .ended rest⟩
      · rename_i named classified
        cases added : given.addAll named with
        | error refusal =>
            rw [added] at read
            cases read
        | ok extended =>
            rw [added] at read
            obtain ⟨switches, rfl, configure⟩ :=
              Given.exists_switches_of_addAll added
            obtain ⟨later, others⟩ := inductionHypothesis read
            exact
              ⟨switches ++ later,
                .switches (Argument.names_of_classify classified configure)
                  others⟩
      · rename_i classified
        cases readRest : readCommand given rest with
        | error refusal =>
            rw [readRest] at read
            cases read
        | ok both =>
            rw [readRest] at read
            cases read
            obtain ⟨switches, others⟩ := inductionHypothesis readRest
            exact
              ⟨switches,
                .target (Argument.classify_eq_word_iff.mp classified) others⟩

theorem Given.mode?_eq (given : Given) :
    given.mode? =
      if given.modes.length ≤ 1 then .ok given.modes.head?
      else .error .conflict := by
  rw [mode?]
  cases given.modes with
  | nil =>
      rfl
  | cons chosen others =>
      cases others <;> simp

/-- A command is refused for two modes, or else for a missing target. -/
theorem request_eq
    (verboseBefore : Bool)
    (given : Given)
    (targets : List String) :
    request verboseBefore given targets =
      if given.modes.length ≤ 1 then
        if targets = [] then .error .missingTarget
        else
          .ok ⟨verboseBefore || given.verbose, given.modes.head?, targets⟩
      else .error .conflict := by
  rw [request, given.mode?_eq]
  split
  · split <;> rfl
  · rfl

/-- Behind a lead, the command decides how the reader goes on. -/
theorem read_lead
    {lead : List String}
    (member : lead ∈ leads)
    (behind : List String) :
    read (lead ++ "netmask" :: behind) =
      readCommand .nothing behind >>= fun both =>
        request (decide (lead ≠ [])) both.1 both.2 := by
  simp only [leads, List.mem_cons, List.not_mem_nil, or_false] at member
  rcases member with rfl | rfl | rfl <;> rfl

/--
What is read behind a lead depends on the number of switches for verbosity, on
the modes chosen and on the targets.
-/
theorem read_eq_of_consists
    {lead behind targets : List String}
    {switches : List Switch}
    (member : lead ∈ leads)
    (consists : Consists behind switches targets) :
    read (lead ++ "netmask" :: behind) =
      if switches.count .verbose ≤ 1 ∧
          (switches.filterMap Switch.chosen?).length ≤ 1 then
        if targets = [] then .error .missingTarget
        else
          .ok
            ⟨decide (lead ≠ []) || decide (.verbose ∈ switches),
              (switches.filterMap Switch.chosen?).head?, targets⟩
      else .error .conflict := by
  rw [read_lead member, consists.readCommand_eq,
    Given.addAll_nothing consists.configures]
  have finished :=
    request_eq (decide (lead ≠ [])) (Given.nothing.extend switches) targets
  by_cases distinct : switches.Nodup
  · rw [if_pos distinct]
    by_cases single : (switches.filterMap Switch.chosen?).length ≤ 1
    · have once :=
        (Switch.nodup_iff consists.configures single).mp distinct
      rw [if_pos ⟨once, single⟩]
      exact finished.trans (if_pos single)
    · rw [if_neg fun both => single both.2]
      exact finished.trans (if_neg single)
  · have repeated :
        ¬ (switches.count .verbose ≤ 1 ∧
          (switches.filterMap Switch.chosen?).length ≤ 1) := by
      rintro ⟨once, single⟩
      exact
        distinct ((Switch.nodup_iff consists.configures single).mpr once)
    rw [if_neg distinct, if_neg repeated]
    rfl

/-- A list of one item at most has no other order. -/
theorem head?_eq_of_perm
    {one other : List α}
    (perm : one.Perm other)
    (few : other.length ≤ 1) :
    one.head? = other.head? := by
  match other with
  | [] => rw [List.perm_nil.mp perm]
  | [single] => rw [List.perm_singleton.mp perm]

/-- The order of switches in a command line makes no difference. -/
theorem read_eq_of_perm
    {lead otherLead behind otherBehind targets : List String}
    {switches otherSwitches : List Switch}
    (member : lead ∈ leads)
    (otherMember : otherLead ∈ leads)
    (sameLead : lead = [] ↔ otherLead = [])
    (consists : Consists behind switches targets)
    (otherConsists : Consists otherBehind otherSwitches targets)
    (sameSwitches : switches.Perm otherSwitches) :
    read (lead ++ "netmask" :: behind) =
      read (otherLead ++ "netmask" :: otherBehind) := by
  have modes := sameSwitches.filterMap Switch.chosen?
  have sameVerbose : Switch.verbose ∈ switches ↔ .verbose ∈ otherSwitches :=
    sameSwitches.mem_iff
  rw [read_eq_of_consists member consists,
    read_eq_of_consists otherMember otherConsists,
    sameSwitches.count_eq, modes.length_eq]
  split
  · rename_i counts
    have sameMode :
        (switches.filterMap Switch.chosen?).head? =
          (otherSwitches.filterMap Switch.chosen?).head? :=
      head?_eq_of_perm modes counts.2
    simp only [sameMode, sameLead, sameVerbose, ne_eq]
  · rfl

/-- A list without repetition that holds one item only holds it once. -/
theorem eq_singleton_of_nodup
    {items : List α}
    {single : α}
    (some : items ≠ [])
    (distinct : items.Nodup)
    (same : ∀ item ∈ items, item = single) :
    items = [single] := by
  obtain ⟨first, rest, rfl⟩ := List.exists_cons_of_ne_nil some
  obtain ⟨isSingle, restSame⟩ := List.forall_mem_cons.mp same
  cases rest with
  | nil =>
      rw [isSingle]
  | cons second others =>
      exfalso
      apply (List.nodup_cons.mp distinct).1
      rw [isSingle, ← restSame second List.mem_cons_self]
      exact List.mem_cons_self

/-- An argument that only asks for verbose output may stand as a lead. -/
theorem lead_of_names
    {argument : String}
    (names : Names argument [.verbose]) :
    [argument] ∈ leads := by
  cases names with
  | inFull named =>
      cases named
      decide
  | byLetters some named =>
      cases named with
      | cons first rest =>
          obtain ⟨name, named⟩ := first
          cases rest
          cases named
          decide

/-- A command line that makes a request starts with the command or its lead. -/
theorem readFrom_cases
    {given : Given}
    {arguments : List String}
    {request : Request}
    (read : readFrom given arguments = .ok request) :
    ∃ first rest,
      arguments = first :: rest ∧
        (first = "netmask" ∨
          [first] ∈ leads ∧
            given.verbose = false ∧
              ∃ extended : Given,
                extended.verbose = true ∧
                  readFrom extended rest = .ok request) := by
  cases arguments with
  | nil =>
      cases read
  | cons first rest =>
      refine ⟨first, rest, rfl, ?_⟩
      rw [readFrom] at read
      split at read
      · rename_i isCommand
        exact .inl isCommand
      · split at read
        · cases read
        · split at read
          · cases read
          · rename_i named classified
            cases added : given.addAll named with
            | error refusal =>
                rw [added] at read
                cases read
            | ok extended =>
                rw [added] at read
                obtain ⟨switches, rfl, configure⟩ :=
                  Given.exists_switches_of_addAll added
                have allVerbose :
                    ∀ switch ∈ switches, switch = .verbose := by
                  intro switch member
                  exact
                    Switch.eq_verbose_of_mem_beforeCommand
                      (Argument.mem_known_of_classify classified
                        (List.mem_map_of_mem member))
                      (configure switch member)
                have names :=
                  Argument.names_of_classify classified configure
                obtain ⟨distinct, new, rfl⟩ :=
                  (Given.addAll_eq_ok_iff configure).mp added
                have single : switches = [.verbose] :=
                  eq_singleton_of_nodup (Argument.ne_nil_of_names names)
                    distinct allVerbose
                rw [single] at names new read
                exact
                  .inr
                    ⟨lead_of_names names,
                      new .verbose List.mem_cons_self, _, by
                        simp [Given.extend], read⟩
          · cases read

/-- What makes a request is a lead, the command and the arguments behind it. -/
theorem exists_lead
    {arguments : List String}
    {request : Request}
    (made : read arguments = .ok request) :
    ∃ lead ∈ leads, ∃ behind, arguments = lead ++ "netmask" :: behind := by
  obtain ⟨first, rest, rfl, isCommand | ⟨isLead, -, extended, noted, further⟩⟩ :=
    readFrom_cases made
  · exact ⟨[], by decide, rest, by rw [isCommand]; rfl⟩
  · obtain ⟨second, behind, rfl, isCommand | ⟨-, unnoted, -⟩⟩ :=
      readFrom_cases further
    · exact ⟨[first], isLead, behind, by rw [isCommand]; rfl⟩
    · rw [noted] at unnoted
      cases unnoted

/-- The parts of a command line that makes a request. -/
theorem exists_parts
    {arguments : List String}
    {request : Request}
    (made : read arguments = .ok request) :
    ∃ lead behind switches, Makes arguments request lead behind switches := by
  obtain ⟨lead, member, behind, rfl⟩ := exists_lead made
  have readBehind := made
  rw [read_lead member] at readBehind
  cases behindRead : readCommand .nothing behind with
  | error refusal =>
      rw [behindRead] at readBehind
      cases readBehind
  | ok both =>
      obtain ⟨final, targets⟩ := both
      obtain ⟨switches, consists⟩ := exists_consists behindRead
      rw [read_eq_of_consists member consists] at made
      split at made
      · rename_i counts
        split at made
        · cases made
        · rename_i present
          cases made
          refine ⟨lead, behind, switches, rfl, member, consists, counts.1,
            counts.2, present, ?_, rfl⟩
          simp
      · cases made

/-- A command line with such parts makes the request. -/
theorem Makes.read_eq
    {arguments lead behind : List String}
    {request : Request}
    {switches : List Switch}
    (makes : Makes arguments request lead behind switches) :
    read arguments = .ok request := by
  have verbose :
      (decide (lead ≠ []) || decide (.verbose ∈ switches)) =
        request.verbose := by
    rw [Bool.eq_iff_iff, makes.verbose_iff]
    simp
  rw [makes.whole, read_eq_of_consists makes.lead_mem makes.consists,
    if_pos ⟨makes.verbose_once, makes.mode_once⟩,
    if_neg makes.targets_ne_nil, verbose, ← makes.flag_eq]

/--
A command line makes a request exactly if it is a lead, the command, and words
and switches behind it, with one switch for verbosity and one for the mode at
most and with a target.  The request then asks for verbose output if the lead or
a switch does, for the mode that is chosen, and for the targets in order.

Every other command line is refused, and no session follows.  And whether
switches stand before, between or behind the targets, share a hyphen or have one
each, and are named by letters or in full, makes no difference.
-/
theorem read_follows_grammar :
    (∀ (arguments : List String) (request : Request),
      read arguments = .ok request ↔
        ∃ lead behind switches,
          Makes arguments request lead behind switches) ∧
      (∀ arguments : List String,
        (¬ ∃ request lead behind switches,
          Makes arguments request lead behind switches) →
        ∃ refusal,
          read arguments = .error refusal ∧
            (refusal.exitCode = 0 ↔
              refusal = .help ∨ refusal = .version) ∧
              ∀ environment,
                Session.start environment arguments = .error refusal) ∧
      ∀ (lead otherLead behind otherBehind targets : List String)
          (switches otherSwitches : List Switch),
        lead ∈ leads →
        otherLead ∈ leads →
        (lead = [] ↔ otherLead = []) →
        Consists behind switches targets →
        Consists otherBehind otherSwitches targets →
        switches.Perm otherSwitches →
          read (lead ++ "netmask" :: behind) =
            read (otherLead ++ "netmask" :: otherBehind) := by
  refine ⟨?_, ?_, ?_⟩
  · intro arguments request
    constructor
    · exact exists_parts
    · rintro ⟨lead, behind, switches, makes⟩
      exact makes.read_eq
  · intro arguments makesNone
    cases verdict : read arguments with
    | ok request =>
        exact absurd ⟨request, exists_parts verdict⟩ makesNone
    | error refusal =>
        refine ⟨refusal, rfl, ?_, ?_⟩
        · cases refusal <;> decide
        · intro environment
          rw [Session.start, verdict]
          rfl
  · intro lead otherLead behind otherBehind targets switches otherSwitches
      member otherMember sameLead consists otherConsists sameSwitches
    exact
      read_eq_of_perm member otherMember sameLead consists otherConsists
        sameSwitches

/-- Switches in a bundle, in full, and words that look like switches. -/
theorem read_follows_grammar_around_hyphens :
    let behind := ["-xv", "-", "--", "-b"]
    let otherBehind := ["-", "--verbose", "--hex", "--", "-b"]
    let switches := [Switch.mode (.styled .hex), .verbose]
    let otherSwitches := [Switch.verbose, .mode (.styled .hex)]
    let targets := ["-", "-b"]
    let request : Request := ⟨true, some (.styled .hex), targets⟩
    let excessive := ["netmask", "-bx", "1.2.3.4"]
    (∃ lead parts found,
      Makes ("-v" :: "netmask" :: behind) request lead parts found) ∧
      ([] ∈ leads ∧
        Consists behind switches targets ∧
        Consists otherBehind otherSwitches targets ∧
        switches.Perm otherSwitches ∧
        read ("netmask" :: behind) = read ("netmask" :: otherBehind)) ∧
      (¬ ∃ request lead parts found,
        Makes excessive request lead parts found) ∧
      ∃ refusal, read excessive = .error refusal := by
  intro behind otherBehind switches otherSwitches targets request excessive
  obtain ⟨makes_iff, refused, sameRequest⟩ := read_follows_grammar
  have accepted : read ("-v" :: "netmask" :: behind) = .ok request := by
    decide +kernel
  have conflict : read excessive = .error .conflict := by
    decide +kernel
  have words : IsWord "-" := .inl rfl
  have bundle : Names "-xv" switches :=
    Names.byLetters (List.cons_ne_nil 'x' ['v'])
      (.cons ⟨"hex", .hex⟩ (.cons ⟨"verbose", .verbose⟩ .nil))
  have consists : Consists behind switches targets :=
    .switches bundle (.target words (.ended ["-b"]))
  have verboseInFull : Names "--verbose" [.verbose] :=
    .inFull .verbose
  have hexInFull : Names "--hex" [.mode (.styled .hex)] :=
    .inFull .hex
  have otherConsists : Consists otherBehind otherSwitches targets :=
    .target words
      (.switches verboseInFull (.switches hexInFull (.ended ["-b"])))
  have perm : switches.Perm otherSwitches := .swap _ _ _
  have makesNone :
      ¬ ∃ request lead parts found,
        Makes excessive request lead parts found := by
    rintro ⟨request, parts⟩
    have made := (makes_iff excessive request).mpr parts
    rw [conflict] at made
    cases made
  obtain ⟨refusal, isRefused, -⟩ := refused excessive makesNone
  refine
    ⟨(makes_iff _ request).mp accepted,
      ⟨by decide, consists, otherConsists, perm, ?_⟩, makesNone, refusal,
      isRefused⟩
  exact
    sameRequest [] [] behind otherBehind targets switches otherSwitches
      (by decide) (by decide) Iff.rfl consists otherConsists perm

end CommandLine

end IpBlocks
