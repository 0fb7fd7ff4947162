import CommandShell.Proofs.Inheritance
import CommandShell.Proofs.Places

namespace CommandShell

/-! What the name of a command leads to. A search path is searched entry by entry, and the
first program that is found ends the search; a name with a slash is never searched for. What
leads to no program is refused, and nothing is started. -/

/-! ## Files -/

namespace World

/-- Whether a text names a file that can be executed, if need be through links. -/
def IsProgram (world : World) (text : Text) : Prop :=
  ∃ path node, world.locate text = .ok (.entry path node) ∧ node.IsPlain ∧
    node.isExecutable = true

/-- Whether a text names a file or a directory, if need be through links. -/
def Exists (world : World) (text : Text) : Prop :=
  (∃ place, world.locate text = .ok (.directory place)) ∨
    ∃ path node, world.locate text = .ok (.entry path node)

variable {world : World} {text name : Text}

theorem isExecutable_iff : world.isExecutable text = true ↔ world.IsProgram text := by
  have plain : ∀ node : Node, node.isExecutable = true → node.IsPlain := by
    intro node executable
    cases node with
    | file contents permissions => exact .file contents permissions
    | program program => exact .program program
    | directory => cases executable
    | link => cases executable
  unfold isExecutable IsProgram
  constructor
  · intro executable
    split at executable
    next path node located => exact ⟨path, node, located, plain node executable, executable⟩
    next => cases executable
  · rintro ⟨path, node, located, _, executable⟩
    rw [located]
    exact executable

theorem not_isProgram_iff : ¬world.IsProgram text ↔ world.isExecutable text = false := by
  rw [← isExecutable_iff, Bool.not_eq_true]

theorem holds_iff : world.holds text = true ↔ world.Exists text := by
  unfold holds Exists
  split
  next place located => simp [located]
  next path node located => simp [located]
  next noDirectory noEntry =>
    constructor
    · intro impossible
      cases impossible
    · rintro (⟨place, located⟩ | ⟨path, node, located⟩)
      · exact absurd located (noDirectory place)
      · exact absurd located (noEntry path node)

theorem IsProgram.exists (program : world.IsProgram text) : world.Exists text := by
  rcases program with ⟨path, node, located, _⟩
  exact .inr ⟨path, node, located⟩

theorem isProgram_here_iff (inhabited : name ≠ []) (single : '/' ∉ name) :
    world.IsProgram ('.' :: '/' :: name) ↔ world.IsProgram name := by
  have same : ∀ found, world.locate ('.' :: '/' :: name) = .ok found ↔
      world.locate name = .ok found := fun _ => FileTree.locate_here_iff inhabited single
  simp only [IsProgram, same]

end World

namespace CommandSearch

variable {world : World} {search name : Text}

/-! ## Candidates -/

theorem candidates_append (search later name : Text) :
    candidates (search ++ ':' :: later) name = candidates search name ++ candidates later name := by
  simp only [candidates, directories, Cut.all_append, List.map_append]

theorem candidates_of_single {entry : Text} (single : ':' ∉ entry) (name : Text) :
    candidates entry name = [FileTree.join (if entry.isEmpty then ['.'] else entry) name] := by
  simp only [candidates, directories, Cut.all_of_not_mem single, List.map_cons, List.map_nil]

theorem slash_mem_of_mem_candidates {candidate : Text}
    (member : candidate ∈ candidates search name) : '/' ∈ candidate := by
  rcases List.mem_map.mp member with ⟨directory, _, rfl⟩
  unfold FileTree.join
  split
  next last => exact List.mem_append_left name (List.mem_of_getLast? last)
  next => exact List.mem_append_right directory List.mem_cons_self

/-- The candidates up to the first program among them, or all if there is none. -/
def examined (world : World) : List Text → List Text
  | [] => []
  | candidate :: rest =>
    candidate :: if world.isExecutable candidate then [] else examined world rest

theorem find?_isExecutable_congr {other : World} {candidates : List Text}
    (alike : ∀ candidate ∈ examined world candidates,
      other.IsProgram candidate ↔ world.IsProgram candidate) :
    candidates.find? other.isExecutable = candidates.find? world.isExecutable := by
  induction candidates with
  | nil => rw [List.find?_nil, List.find?_nil]
  | cons candidate rest induction =>
    rw [examined] at alike
    rcases List.forall_mem_cons.mp alike with ⟨here, onward⟩
    have same : other.isExecutable candidate = world.isExecutable candidate := by
      rw [Bool.eq_iff_iff, World.isExecutable_iff, World.isExecutable_iff]
      exact here
    cases program : world.isExecutable candidate with
    | true =>
      rw [List.find?_cons_of_pos program, List.find?_cons_of_pos (same.trans program)]
    | false =>
      rw [program, if_neg Bool.false_ne_true] at onward
      rw [List.find?_cons_of_neg (Bool.eq_false_iff.mp program),
        List.find?_cons_of_neg (Bool.eq_false_iff.mp (same.trans program))]
      exact induction onward

/-! ## Names without a slash -/

theorem find_of_single (inhabited : name ≠ []) (single : '/' ∉ name) (world : World)
    (search : Text) :
    find world (some search) name =
      match (candidates search name).find? world.isExecutable with
      | some path => .program path
      | none => .nothing := by
  have named : ¬name.isEmpty = true := by simpa using inhabited
  have noSlash : ¬name.contains '/' = true := by simpa using single
  rw [find, if_neg named, if_neg noSlash]
  rfl

/-- What a search for a name without a slash leads to. -/
structure Searched (world : World) (search name : Text) : Prop where
  /-- What stands behind a colon is only searched where nothing has been found before. -/
  joined : ∀ later, find world (some (search ++ ':' :: later)) name =
    match find world (some search) name with
    | .program path => .program path
    | _ => find world (some later) name
  found : ∀ path, find world (some search) name = .program path ↔
    ∃ earlier later, candidates search name = earlier ++ path :: later ∧
      (∀ candidate ∈ earlier, ¬world.IsProgram candidate) ∧ world.IsProgram path
  nothing : find world (some search) name = .nothing ↔
    ∀ candidate ∈ candidates search name, ¬world.IsProgram candidate
  unhindered : ∀ path, find world (some search) name ≠ .obstacle path
  /-- What has been found is not searched for when it is started. -/
  direct : ∀ path, find world (some search) name = .program path → '/' ∈ path
  decisive : ∀ other : World,
    (∀ candidate ∈ examined world (candidates search name),
      other.IsProgram candidate ↔ world.IsProgram candidate) →
    find other (some search) name = find world (some search) name

theorem find?_isExecutable_eq_some_iff {candidates : List Text} {path : Text} :
    candidates.find? world.isExecutable = some path ↔
      ∃ earlier later, candidates = earlier ++ path :: later ∧
        (∀ candidate ∈ earlier, ¬world.IsProgram candidate) ∧ world.IsProgram path := by
  rw [List.find?_eq_some_iff_append, World.isExecutable_iff]
  simp only [Bool.not_eq_true', ← World.not_isProgram_iff]
  constructor
  · rintro ⟨program, earlier, later, whole, free⟩
    exact ⟨earlier, later, whole, free, program⟩
  · rintro ⟨earlier, later, whole, free, program⟩
    exact ⟨program, earlier, later, whole, free⟩

theorem find?_isExecutable_eq_none_iff {candidates : List Text} :
    candidates.find? world.isExecutable = none ↔
      ∀ candidate ∈ candidates, ¬world.IsProgram candidate := by
  simp only [List.find?_eq_none, World.isExecutable_iff]

theorem searched (inhabited : name ≠ []) (single : '/' ∉ name) (world : World) (search : Text) :
    Searched world search name := by
  have find := find_of_single inhabited single
  have found : ∀ path, CommandSearch.find world (some search) name = .program path ↔
      (candidates search name).find? world.isExecutable = some path := by
    intro path
    rw [find]
    split
    next other same => rw [same, Result.program.injEq, Option.some.injEq]
    next none => simp [none]
  constructor
  · intro later
    rw [find, find, find, candidates_append, List.find?_append]
    cases (candidates search name).find? world.isExecutable <;> rfl
  · intro path
    rw [found, find?_isExecutable_eq_some_iff]
  · rw [← find?_isExecutable_eq_none_iff, find]
    split
    next path same => simp [same]
    next none => simp [none]
  · intro path
    rw [find]
    split <;> simp
  · intro path same
    exact slash_mem_of_mem_candidates (List.mem_of_find?_eq_some ((found path).mp same))
  · intro other alike
    rw [find, find, find?_isExecutable_congr alike]

/-- Entries that are empty, be it at the beginning of a search path, at its end or between two
colons, stand for the working directory. -/
structure EmptyIsHere (world : World) (name : Text) : Prop where
  here : world.IsProgram ('.' :: '/' :: name) ↔ world.IsProgram name
  leading : ∀ later,
    candidates (':' :: later) name = ('.' :: '/' :: name) :: candidates later name
  trailing : ∀ earlier,
    candidates (earlier ++ [':']) name = candidates earlier name ++ ['.' :: '/' :: name]
  doubled : ∀ earlier later, candidates (earlier ++ ':' :: ':' :: later) name =
    candidates earlier name ++ ('.' :: '/' :: name) :: candidates later name

theorem emptyIsHere (inhabited : name ≠ []) (single : '/' ∉ name) (world : World) :
    EmptyIsHere world name := by
  have empty : candidates [] name = ['.' :: '/' :: name] := candidates_of_single (by simp) name
  have leading : ∀ later,
      candidates (':' :: later) name = ('.' :: '/' :: name) :: candidates later name := by
    intro later
    have joined := candidates_append [] later name
    rw [empty] at joined
    exact joined
  refine ⟨World.isProgram_here_iff inhabited single, leading, ?_, ?_⟩
  · intro earlier
    rw [candidates_append, empty]
  · intro earlier later
    rw [candidates_append, leading]

/-! ## Names with a slash -/

/-- What a name with a slash leads to, whatever is searched for others. -/
structure Direct (world : World) (search : Option Text) (name : Text) : Prop where
  program : ∀ path, find world search name = .program path ↔ path = name ∧ world.IsProgram name
  obstacle : ∀ path, find world search name = .obstacle path ↔
    path = name ∧ world.Exists name ∧ ¬world.IsProgram name
  nothing : find world search name = .nothing ↔ ¬world.Exists name

theorem direct_of_slash (slash : '/' ∈ name) (world : World) (search : Option Text) :
    Direct world search name := by
  have named : ¬name.isEmpty = true := by simpa using List.ne_nil_of_mem slash
  have holds : name.contains '/' = true := by simpa using slash
  have find : CommandSearch.find world search name = direct world name := by
    rw [CommandSearch.find, if_neg named, if_pos holds]
  by_cases program : world.IsProgram name
  · rw [direct, if_pos (World.isExecutable_iff.mpr program)] at find
    constructor <;> simp [find, program, program.exists, eq_comm]
  · rw [direct, if_neg (World.isExecutable_iff.not.mpr program)] at find
    by_cases there : world.Exists name
    · rw [if_pos (World.holds_iff.mpr there)] at find
      constructor <;> simp [find, program, there, eq_comm]
    · rw [if_neg (World.holds_iff.not.mpr there)] at find
      constructor <;> simp [find, program, there]

end CommandSearch

/-! ## Commands that lead to no program -/

namespace Shell

/-- A refused command issues a diagnostic, has the status of the refusal, and starts nothing. -/
theorem launches_refuse (shell : Shell) (name : Text) (failure : Failure) :
    (shell.refuse name failure).1 = .status failure.status ∧
      (shell.refuse name failure).2.launches = shell.launches := by
  refine ⟨rfl, ?_⟩
  rw [refuse, concludeFailure, launches_reportOrWarn]
  exact launches_record_ordinary shell rfl

end Shell

namespace Step

/-- Whether the step has run as a command of this name, which is no builtin's. -/
structure LooksUp (step : Step) (name : Text) : Prop where
  ran : step.Ran
  understood : step.segment.stray? = none
  named : (step.before.wordsOf step.segment).head? = some name
  foreign : Builtin.ofName? name = none

/-- What a name leads to when the step begins. -/
def find (step : Step) (name : Text) : CommandSearch.Result :=
  CommandSearch.find step.before.world
    (step.before.session.environment.get? (Text.ofString "PATH")) name

/-- A step that has started no program and has left this status. -/
def IsRefused (step : Step) (status : Int) : Prop :=
  step.after.launches = step.before.launches ∧ step.after.session.status = status

variable {step : Step} {name : Text}

theorem LooksUp.not_dispatched (looksUp : step.LooksUp name) :
    step.before.dispatched step.segment = none := by
  have named := looksUp.named
  unfold Shell.dispatched
  cases words : Text.words (step.before.session.expand step.segment.text) with
  | nil => simp [looksUp.understood]
  | cons first operands =>
    rw [Shell.wordsOf, words] at named
    cases named
    simp [looksUp.understood, looksUp.foreign]

/-- A step whose name leads nowhere ends with the status of the refusal. -/
theorem isRefused_of_refuse (lawful : step.IsLawful) (looksUp : step.LooksUp name)
    (failure : Failure)
    (refused : ∀ shell : Shell, shell.world = step.before.world →
      shell.session = step.before.session →
      ∀ operands, shell.command name operands = shell.refuse name failure) :
    step.IsRefused (Session.exitStatus failure.status) := by
  have named := looksUp.named
  let logged := step.before.log
    (.expanded step.segment.text (step.before.session.expand step.segment.text))
  have run : step.before.segment step.segment = logged.refuse name failure := by
    rcases Shell.segment_of_not_dispatched looksUp.not_dispatched with
      ⟨sign, stray, _⟩ | ⟨_, words, _⟩ | ⟨first, operands, _, words, _, run⟩
    · rw [looksUp.understood] at stray
      cases stray
    · rw [Shell.wordsOf, words] at named
      cases named
    · rw [Shell.wordsOf, words] at named
      cases named
      rw [run]
      exact refused logged rfl rfl operands
  rcases Option.isSome_iff_exists.mp looksUp.ran with ⟨outcome, ran⟩
  rcases lawful.of_outcome ran with ⟨ended, after⟩
  rw [run] at ended after
  rcases Shell.launches_refuse logged name failure with ⟨status, launches⟩
  cases status.symm.trans ended
  rw [IsRefused, after]
  refine ⟨?_, rfl⟩
  rw [Shell.launches_conclude, launches]
  exact Shell.launches_record_ordinary step.before rfl

theorem isRefused_of_obstacle (lawful : step.IsLawful) (looksUp : step.LooksUp name)
    {path : Text} (found : step.find name = .obstacle path) : step.IsRefused 126 := by
  apply isRefused_of_refuse lawful looksUp .commandNotExecutable
  intro shell world session operands
  rw [find] at found
  rw [Shell.command_of_foreign looksUp.foreign, world, session, found]

theorem isRefused_of_nothing (lawful : step.IsLawful) (looksUp : step.LooksUp name)
    (found : step.find name = .nothing) : step.IsRefused 127 := by
  apply isRefused_of_refuse lawful looksUp .commandNotFound
  intro shell world session operands
  rw [find] at found
  rw [Shell.command_of_foreign looksUp.foreign, world, session, found]

end Step

/-- A name without a slash leads to the first program among its candidates, and nothing else
matters. One with a slash leads to what it names, and no search path matters. A command that is
no builtin's and leads to no program starts nothing, and leaves the status that says so. -/
theorem names_lead_to_first_program (name : Text) (named : name ≠ []) :
    (∀ world : World,
      ('/' ∉ name →
        CommandSearch.EmptyIsHere world name ∧
          ∀ search, CommandSearch.Searched world search name) ∧
      ('/' ∈ name → ∀ search, CommandSearch.Direct world search name)) ∧
    ∀ (shell : Shell) (line : Text), ∀ step ∈ shell.stepsOf line, step.LooksUp name →
      (∀ path, step.find name = .obstacle path → step.IsRefused 126) ∧
        (step.find name = .nothing → step.IsRefused 127) := by
  constructor
  · intro world
    constructor
    · intro single
      exact ⟨CommandSearch.emptyIsHere named single world,
        CommandSearch.searched named single world⟩
    · intro slash
      exact CommandSearch.direct_of_slash slash world
  · intro shell line step member looksUp
    have lawful := Shell.isLawful_of_mem_stepsOf step member
    exact ⟨fun _ => Step.isRefused_of_obstacle lawful looksUp,
      Step.isRefused_of_nothing lawful looksUp⟩

/-- The first entry holds a file that cannot be executed, the second one is empty, and the third
holds a link to a program. -/
theorem names_lead_through_links :
    let tool := Text.ofString "tool"
    let search := Text.ofString "/a::/b"
    let linked := Text.ofString "/b/tool"
    let world :=
      ((World.put { files := .empty } (Text.ofString "/a/tool") (.file [] 0o644)).put
        (Text.ofString "/c/program") (.program [])).put linked (.link (Text.ofString "/c/program"))
    tool ≠ [] ∧ '/' ∉ tool ∧
      CommandSearch.find world (some search) tool = .program linked ∧
      ∃ earlier later, CommandSearch.candidates search tool = earlier ++ linked :: later ∧
        (∀ candidate ∈ earlier, ¬world.IsProgram candidate) ∧ world.IsProgram linked := by
  intro tool search linked world
  have named : tool ≠ [] := by decide
  have single : '/' ∉ tool := by decide
  have found : CommandSearch.find world (some search) tool = .program linked := by decide +kernel
  have leads := (names_lead_to_first_program tool named).1 world
  exact ⟨named, single, found, (((leads.1 single).2 search).found linked).mp found⟩

end CommandShell
