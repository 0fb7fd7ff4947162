import CommandShell.Proofs.Storage

namespace CommandShell

/-! Texts that name files and directories. A name without a slash is looked up in the working
directory, and the path of a directory that is still there leads back to it from wherever the
shell stands. -/

namespace FileTree

variable {files : FileTree} {place : Place} {found : Located}

/-- A text that can be followed leads to what its names lead to. -/
theorem locate_eq_ok_iff (text : Text) :
    files.locate place text = .ok found ↔
      '\x00' ∉ text ∧ text ≠ [] ∧ Utf8.size text < pathLimit ∧
        Leads files (linkLimit + 1) (origin text place) (names text) found := by
  unfold locate
  constructor
  · intro located
    split at located
    · cases located
    next noZero =>
      split at located
      · cases located
      next inhabited =>
        split at located
        · cases located
        next short =>
          refine ⟨by simpa using noZero, by simpa using inhabited, by omega, ?_⟩
          exact leads_of_followLinks located
  · rintro ⟨noZero, inhabited, short, leads⟩
    rw [if_neg (by simpa using noZero), if_neg (by simpa using inhabited), if_neg (by omega)]
    exact leads.followLinks_eq_ok

/-! ## Single names -/

/-- A text that ends in a name does not ask for a directory. -/
theorem getLast?_append_single {name : Text} (inhabited : name ≠ []) (single : '/' ∉ name)
    (before : Text) : (before ++ name).getLast? ≠ some '/' := by
  cases last : name.getLast? with
  | none => exact absurd (List.getLast?_eq_none_iff.mp last) inhabited
  | some character =>
    rw [List.getLast?_append, last]
    intro slash
    cases slash
    exact single (List.mem_of_getLast? last)

theorem names_of_single {name : Text} (inhabited : name ≠ []) (single : '/' ∉ name) :
    names name = [name] := by
  have noSlash : name.getLast? ≠ some '/' := getLast?_append_single inhabited single []
  rw [names, Cut.all_of_not_mem single, if_neg noSlash]
  simp [inhabited]

/-- No name that leads anywhere is too long. -/
theorem Leads.size_le {limit : Nat} {name : Text} {rest : List Text}
    (leads : Leads files limit place (name :: rest) found) : Utf8.size name ≤ nameLimit := by
  cases leads with
  | stay here => rcases here with rfl | rfl <;> decide
  | climb => decide
  | enter proper => exact proper.short
  | follow proper => exact proper.short
  | vacant proper => exact proper.short
  | entry proper => exact proper.short

theorem leads_here_iff {limit : Nat} {rest : List Text} :
    Leads files (limit + 1) place (['.'] :: rest) found ↔
      Leads files (limit + 1) place rest found := by
  constructor
  · intro leads
    cases leads with
    | stay _ onward => exact onward
    | enter proper => exact absurd rfl proper.notHere
    | follow proper => exact absurd rfl proper.notHere
    | vacant proper => exact absurd rfl proper.notHere
    | entry proper => exact absurd rfl proper.notHere
  · exact .stay (.inr rfl)

/-- A name means the same with and without the working directory before it. -/
theorem locate_here_iff {name : Text} (inhabited : name ≠ []) (single : '/' ∉ name) :
    files.locate place ('.' :: '/' :: name) = .ok found ↔ files.locate place name = .ok found := by
  have names : FileTree.names ('.' :: '/' :: name) = ['.'] :: FileTree.names name := by
    have parts : Cut.all '/' ('.' :: '/' :: name) = [['.'], name] := by
      have cut := Cut.all_append '/' ['.'] name
      rw [Cut.all_of_not_mem single] at cut
      exact cut
    have noSlash : ('.' :: '/' :: name).getLast? ≠ some '/' :=
      getLast?_append_single inhabited single ['.', '/']
    rw [names_of_single inhabited single, FileTree.names, parts, if_neg noSlash]
    simp [inhabited]
  have sameOrigin : origin ('.' :: '/' :: name) place = origin name place := by
    have noSlash : name.head? ≠ some '/' := fun first => single (List.mem_of_mem_head? first)
    rw [origin, origin, if_neg noSlash]
    rfl
  rw [locate_eq_ok_iff, locate_eq_ok_iff, names, sameOrigin, leads_here_iff]
  constructor
  · rintro ⟨noZero, _, short, leads⟩
    rw [Utf8.size_cons, Utf8.size_cons] at short
    exact ⟨by simpa using noZero, inhabited, by omega, leads⟩
  · rintro ⟨noZero, _, _, leads⟩
    refine ⟨by simpa using noZero, by simp, ?_, leads⟩
    rw [names_of_single inhabited single] at leads
    have short := leads.size_le
    rw [Utf8.size_cons, Utf8.size_cons]
    have dot : Char.utf8Size '.' = 1 := by decide
    have slash : Char.utf8Size '/' = 1 := by decide
    simp only [nameLimit, pathLimit] at short ⊢
    omega

/-! ## Directories that are there -/

/-- A name that an entry of a directory can have. -/
structure IsEntryName (name : Text) : Prop where
  inhabited : name ≠ []
  notHere : name ≠ ['.']
  notAbove : name ≠ ['.', '.']
  single : '/' ∉ name
  noZero : '\x00' ∉ name
  short : Utf8.size name ≤ nameLimit

/-- A directory that is there with all directories above it, and whose path is not too
long. -/
structure IsStanding (files : FileTree) (place : Place) : Prop where
  present : place.removed = []
  directories : ∀ above, above <+: place.present → files.node? above = some .directory
  names : ∀ name ∈ place.present, IsEntryName name
  short : ∀ text ∈ place.text?, Utf8.size text < pathLimit

theorem isStanding_root (files : FileTree) : IsStanding files .root where
  present := rfl
  directories := by
    intro above isPrefix
    rw [List.prefix_nil.mp isPrefix]
    rfl
  names := by simp [Place.root]
  short := by decide

theorem IsStanding.enter (standing : IsStanding files place) {name : Text}
    (isName : IsEntryName name)
    (there : files.node? (place.present ++ [name]) = some .directory)
    (short : Utf8.size ((place.present ++ [name]).flatMap ('/' :: ·)) < pathLimit) :
    IsStanding files { present := place.present ++ [name] } where
  present := rfl
  directories := by
    intro above isPrefix
    rcases List.prefix_concat_iff.mp isPrefix with rfl | onward
    · exact there
    · exact standing.directories above onward
  names := by
    rw [List.forall_mem_append]
    exact ⟨standing.names, by simpa using isName⟩
  short := by
    intro text path
    have whole : Place.text? { present := place.present ++ [name] } =
        some ((place.present ++ [name]).flatMap ('/' :: ·)) := by simp [Place.text?]
    cases whole.symm.trans path
    exact short

/-- Names with slashes before them come apart behind the slashes. -/
theorem all_flatMap {path : Path} (single : ∀ name ∈ path, '/' ∉ name) :
    Cut.all '/' (path.flatMap ('/' :: ·)) = [] :: path := by
  induction path with
  | nil => rfl
  | cons name rest induction =>
    rcases List.forall_mem_cons.mp single with ⟨here, onward⟩
    have behind := induction onward
    have first : Cut.all '/' (name ++ rest.flatMap ('/' :: ·)) = name :: rest := by
      cases rest with
      | nil => simpa using Cut.all_of_not_mem here
      | cons next others =>
        rw [List.flatMap_cons, List.cons_append] at behind ⊢
        rw [Cut.all_append, Cut.all_of_not_mem here]
        rw [Cut.all, if_pos rfl] at behind
        rw [List.tail_eq_of_cons_eq behind]
        rfl
    rw [List.flatMap_cons, List.cons_append, Cut.all, if_pos rfl, first]

/-- The names in the path of a directory are those that lead to it. -/
theorem names_flatMap {path : Path} (areNames : ∀ name ∈ path, IsEntryName name) :
    names (path.flatMap ('/' :: ·)) = path := by
  have parts := all_flatMap fun name member => (areNames name member).single
  have noSlash : (path.flatMap ('/' :: ·)).getLast? ≠ some '/' := by
    rcases List.eq_nil_or_concat path with rfl | ⟨above, name, rfl⟩
    · simp
    · rw [List.concat_eq_append] at areNames ⊢
      have isName := areNames name (by simp)
      have whole : (above ++ [name]).flatMap ('/' :: ·) =
          (above.flatMap ('/' :: ·) ++ ['/']) ++ name := by simp
      rw [whole]
      exact getLast?_append_single isName.inhabited isName.single _
  have inhabited : path.filter (fun name => !name.isEmpty) = path := by
    rw [List.filter_eq_self]
    intro name member
    simpa using (areNames name member).inhabited
  rw [names, parts, if_neg noSlash, List.append_nil]
  exact inhabited

/-- Directories that are there lead from one to the next. -/
theorem leads_of_directories {path : Path} (areNames : ∀ name ∈ path, IsEntryName name)
    (directories : ∀ above, above <+: path → files.node? above = some .directory)
    (limit : Nat) {above behind : Path} (whole : path = above ++ behind) :
    Leads files (limit + 1) { present := above } behind (.directory { present := path }) := by
  induction behind generalizing above with
  | nil =>
    rw [whole, List.append_nil]
    exact .stop limit _
  | cons name rest induction =>
    have next : path = (above ++ [name]) ++ rest := by rw [whole, List.append_assoc]; rfl
    have isName := areNames name (by simp [whole])
    have proper : IsProper { present := above } name :=
      ⟨isName.inhabited, isName.notHere, isName.notAbove, rfl, isName.short⟩
    exact .enter proper (directories (above ++ [name]) ⟨rest, next.symm⟩) (induction next)

end FileTree

namespace World

/-- Whether a directory has a path that leads to it. -/
def Keeps (world : World) (place : Place) : Prop :=
  ∃ text, place.text? = some text ∧ world.locate text = .ok (.directory place)

/-- Every directory has one that is there with all directories above it, unless its path
has grown too long. -/
theorem keeps_of_isStanding {world : World} {place : Place}
    (standing : FileTree.IsStanding world.files place) : world.Keeps place := by
  rcases place with ⟨path, removed⟩
  rcases standing with ⟨present, directories, areNames, short⟩
  cases present
  have leads : FileTree.Leads world.files (FileTree.linkLimit + 1) .root path
      (.directory { present := path }) :=
    FileTree.leads_of_directories areNames directories _ (List.nil_append path).symm
  cases path with
  | nil =>
    refine ⟨['/'], rfl, (FileTree.locate_eq_ok_iff _).mpr ?_⟩
    exact ⟨by decide, by decide, by decide, .stay (.inl rfl) leads⟩
  | cons name rest =>
    have noZero : '\x00' ∉ (name :: rest).flatMap ('/' :: ·) := by
      rw [List.mem_flatMap]
      rintro ⟨other, member, within⟩
      rcases List.mem_cons.mp within with impossible | within
      · exact absurd impossible (by decide)
      · exact (areNames other member).noZero within
    refine ⟨(name :: rest).flatMap ('/' :: ·), rfl, (FileTree.locate_eq_ok_iff _).mpr ?_⟩
    refine ⟨noZero, by simp, short _ rfl, ?_⟩
    rw [FileTree.names_flatMap areNames]
    exact leads

end World

end CommandShell
