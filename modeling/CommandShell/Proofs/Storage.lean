import CommandShell.HistoryFile

namespace CommandShell

/-! A file that has been written holds what was written to it. The way to the file leads
through directories and links, and no write changes any of these. -/

namespace Node

/-- Neither a directory nor a link, so that no way leads on from it. -/
inductive IsPlain : Node → Prop
  | file (contents : Bytes) (permissions : Nat) : IsPlain (.file contents permissions)
  | program (program : Program) : IsPlain (.program program)

theorem withContents_eq_file (contents : Bytes) (node : Node) :
    ∃ permissions, node.withContents contents = .file contents permissions := by
  cases node <;> exact ⟨_, rfl⟩

theorem isReadable_withContents (contents : Bytes) (node : Node) :
    (node.withContents contents).isReadable = node.isReadable := by
  cases node with
  | file => rfl
  | _ => simp [withContents, isReadable, permissions, newPermissions, programPermissions]

end Node

/-- The path at which something is or could be, other than a directory. -/
def Located.path? : Located → Option Path
  | .directory _ => none
  | .entry path _ => some path
  | .vacant path => some path

namespace FileTree

variable {files : FileTree} {limit : Nat} {place : Place} {names : List Text} {found : Located}

/-! ## Ways -/

/-- A name that stands for an entry, at a place where there can be entries. -/
structure IsProper (place : Place) (name : Text) : Prop where
  inhabited : name ≠ []
  notHere : name ≠ ['.']
  notAbove : name ≠ ['.', '.']
  present : place.removed = []
  short : Utf8.size name ≤ nameLimit

/-- Where names lead to from a place, through fewer links than so many. -/
inductive Leads (files : FileTree) : Nat → Place → List Text → Located → Prop
  | stop (limit : Nat) (place : Place) : Leads files (limit + 1) place [] (.directory place)
  | stay {limit : Nat} {place : Place} {name : Text} {rest : List Text} {found : Located}
      (here : name = [] ∨ name = ['.']) (onward : Leads files (limit + 1) place rest found) :
      Leads files (limit + 1) place (name :: rest) found
  | climb {limit : Nat} {place : Place} {rest : List Text} {found : Located}
      (onward : Leads files (limit + 1) place.parent rest found) :
      Leads files (limit + 1) place (['.', '.'] :: rest) found
  | enter {limit : Nat} {place : Place} {name : Text} {rest : List Text} {found : Located}
      (proper : IsProper place name)
      (directory : files.node? (place.present ++ [name]) = some .directory)
      (onward : Leads files (limit + 1) { present := place.present ++ [name] } rest found) :
      Leads files (limit + 1) place (name :: rest) found
  | follow {limit : Nat} {place : Place} {name target : Text} {rest : List Text}
      {found : Located} (proper : IsProper place name)
      (link : files.node? (place.present ++ [name]) = some (.link target))
      (onward : Leads files limit (origin target place) (FileTree.names target ++ rest) found) :
      Leads files (limit + 1) place (name :: rest) found
  | vacant {limit : Nat} {place : Place} {name : Text} (proper : IsProper place name)
      (nothing : files.node? (place.present ++ [name]) = none) :
      Leads files (limit + 1) place [name] (.vacant (place.present ++ [name]))
  | entry {limit : Nat} {place : Place} {name : Text} {node : Node}
      (proper : IsProper place name)
      (something : files.node? (place.present ++ [name]) = some node) (plain : node.IsPlain) :
      Leads files (limit + 1) place [name] (.entry (place.present ++ [name]) node)

theorem leads_of_walk {purpose : Purpose}
    (onward : ∀ place names found, followLinks files purpose limit place names = .ok found →
      Leads files limit place names found)
    (walked : walk files purpose (followLinks files purpose limit) place names = .ok found) :
    Leads files (limit + 1) place names found := by
  induction names generalizing place with
  | nil =>
    cases walked
    exact .stop limit place
  | cons name rest induction =>
    rw [walk] at walked
    split at walked
    next here => exact .stay here (induction walked)
    next apart =>
      rcases not_or.mp apart with ⟨inhabited, notHere⟩
      split at walked
      next above =>
        subst above
        exact .climb (induction walked)
      next notAbove =>
        split at walked
        · cases walked
        split at walked
        · cases walked
        next present =>
          split at walked
          · cases walked
          next short =>
            have proper : IsProper place name :=
              ⟨inhabited, notHere, notAbove, by simpa using present, by omega⟩
            dsimp only at walked
            split at walked
            next nothing =>
              cases rest with
              | nil =>
                cases walked
                exact .vacant proper nothing
              | cons => cases walked
            next directory => exact .enter proper directory (induction walked)
            next target link => exact .follow proper link (onward _ _ _ walked)
            next node notDirectory notLink something =>
              cases rest with
              | nil =>
                cases walked
                apply Leads.entry proper something
                cases node with
                | directory => exact absurd rfl notDirectory
                | link target => exact absurd rfl (notLink target)
                | file contents permissions => exact .file contents permissions
                | program program => exact .program program
              | cons => cases walked

theorem leads_of_followLinks {purpose : Purpose}
    (walked : followLinks files purpose limit place names = .ok found) :
    Leads files limit place names found := by
  induction limit generalizing place names found with
  | zero => cases walked
  | succ limit induction => exact leads_of_walk (fun _ _ _ => induction) walked

theorem walk_of_proper {follow : Place → List Text → Except Fault Located} {name : Text}
    (proper : IsProper place name) (rest : List Text) :
    walk files .existing follow place (name :: rest) =
      match files.node? (place.present ++ [name]) with
      | none =>
        if rest.isEmpty then .ok (.vacant (place.present ++ [name])) else .error .noSuchEntry
      | some .directory => walk files .existing follow { present := place.present ++ [name] } rest
      | some (.link target) => follow (origin target place) (FileTree.names target ++ rest)
      | some node =>
        if rest.isEmpty then .ok (.entry (place.present ++ [name]) node)
        else .error .notDirectory := by
  have apart : ¬(name = [] ∨ name = ['.']) := not_or.mpr ⟨proper.inhabited, proper.notHere⟩
  have noCreation : ¬(Purpose.existing = .creation ∧ rest = [[]]) := nofun
  have present : ¬(!place.removed.isEmpty) = true := by simp [proper.present]
  have short : ¬Utf8.size name > nameLimit := Nat.not_lt.mpr proper.short
  rw [walk, if_neg apart, if_neg proper.notAbove, if_neg noCreation, if_neg present]
  exact if_neg short

theorem Leads.followLinks_eq_ok (leads : Leads files limit place names found) :
    followLinks files .existing limit place names = .ok found := by
  induction leads with
  | stop => rfl
  | stay here _ induction =>
    rw [followLinks, walk, if_pos here]
    exact induction
  | climb _ induction =>
    rw [followLinks, walk, if_neg (by simp), if_pos rfl]
    exact induction
  | enter proper directory _ induction =>
    rw [followLinks, walk_of_proper proper, directory]
    exact induction
  | follow proper link _ induction =>
    rw [followLinks, walk_of_proper proper, link]
    exact induction
  | vacant proper nothing =>
    rw [followLinks, walk_of_proper proper, nothing]
    rfl
  | entry proper something plain =>
    rw [followLinks, walk_of_proper proper, something]
    cases plain <;> rfl

/-! ## After a write -/

theorem node?_set_self {path : Path} (inhabited : path ≠ []) (node : Node) :
    node? (files.set path node) path = some node := by
  simp [node?, inhabited, Store.get?_set_self]

theorem node?_set_of_ne {path other : Path} (different : other ≠ path) (node : Node) :
    node? (files.set path node) other = files.node? other := by
  rw [node?, node?, Store.get?_set_of_ne files node different]

/-- A path that has been found is that of an entry or of nothing. -/
theorem Leads.node?_eq (leads : Leads files limit place names found) {path : Path}
    (atPath : found.path? = some path) :
    path ≠ [] ∧ ∀ node, files.node? path = some node → node.IsPlain := by
  induction leads with
  | stop => cases atPath
  | stay _ _ induction => exact induction atPath
  | climb _ induction => exact induction atPath
  | enter _ _ _ induction => exact induction atPath
  | follow _ _ _ induction => exact induction atPath
  | vacant proper nothing =>
    cases atPath
    simp [nothing]
  | entry proper something plain =>
    cases atPath
    simpa [something] using plain

/-- A write at the end of a way does not change the way. -/
theorem Leads.after_set (leads : Leads files limit place names found) {path : Path}
    (atPath : found.path? = some path) {contents : Bytes} {permissions : Nat} :
    Leads (files.set path (.file contents permissions)) limit place names
      (.entry path (.file contents permissions)) := by
  rcases leads.node?_eq atPath with ⟨inhabited, plain⟩
  have unchanged : ∀ other node, files.node? other = some node → ¬node.IsPlain →
      node? (files.set path (.file contents permissions)) other = some node := by
    intro other node found hollow
    have different : other ≠ path := by
      rintro rfl
      exact hollow (plain node found)
    rw [node?_set_of_ne different, found]
  induction leads with
  | stop => cases atPath
  | stay skipped _ induction => exact .stay skipped (induction atPath)
  | climb _ induction => exact .climb (induction atPath)
  | enter proper directory _ induction =>
    exact .enter proper (unchanged _ _ directory nofun) (induction atPath)
  | follow proper link _ induction =>
    exact .follow proper (unchanged _ _ link nofun) (induction atPath)
  | vacant proper nothing =>
    cases atPath
    exact .entry proper (node?_set_self inhabited _) (.file contents permissions)
  | entry proper something _ =>
    cases atPath
    exact .entry proper (node?_set_self inhabited _) (.file contents permissions)

/-! ## Reading what has been written -/

theorem locate_of_leads {text : Text} {purpose : Purpose} {one two : Located}
    (located : files.locate place text purpose = .ok one) {after : FileTree}
    (leads : Leads files (linkLimit + 1) (origin text place) (FileTree.names text) one →
      Leads after (linkLimit + 1) (origin text place) (FileTree.names text) two) :
    after.locate place text = .ok two := by
  unfold locate at located ⊢
  split at located
  · cases located
  next noZero =>
    split at located
    · cases located
    next inhabited =>
      split at located
      · cases located
      next short =>
        rw [if_neg noZero, if_neg inhabited, if_neg short]
        exact (leads (leads_of_followLinks located)).followLinks_eq_ok

theorem read_after_set {text : Text} {path : Path} {contents : Bytes} {permissions : Nat}
    (located : files.locate place text .creation = .ok found) (atPath : found.path? = some path) :
    read (files.set path (.file contents permissions)) place text =
      if (Node.file contents permissions).isReadable then .ok contents
      else .error .accessDenied := by
  have there : locate (files.set path (.file contents permissions)) place text =
      .ok (.entry path (.file contents permissions)) :=
    locate_of_leads located fun leads => leads.after_set atPath
  simp only [read, there]
  rfl

/-- What has been written to a file can be read from it. Only a file that could not be read
before cannot be read either. -/
theorem read_after_write {text : Text} {contents : Bytes} {after : FileTree}
    (written : files.write place text contents = .ok after) :
    files.read place text ≠ .error .accessDenied ∧ after.read place text = .ok contents ∨
      files.read place text = .error .accessDenied ∧
        after.read place text = .error .accessDenied := by
  unfold write at written
  split at written
  · cases written
  · cases written
  next path node located =>
    split at written
    next =>
      have before : files.locate place text = .ok (.entry path node) :=
        locate_of_leads located id
      have readable := Node.isReadable_withContents contents node
      rcases Node.withContents_eq_file contents node with ⟨permissions, same⟩
      rw [same] at written readable
      cases written
      rw [read_after_set located rfl, readable]
      cases allowed : node.isReadable <;> simp [read, before, allowed]
    next => cases written
  next path located =>
    cases written
    have before : files.locate place text = .ok (.vacant path) := locate_of_leads located id
    have readable : (Node.file contents Node.newPermissions).isReadable = true := by
      simp [Node.isReadable, Node.permissions, Node.newPermissions]
    rw [read_after_set located rfl, if_pos readable]
    simp [read, before, Fault.noSuchEntry, Fault.accessDenied]

/-- Where an absolute path leads to is the same at every place. -/
theorem origin_of_absolute {text : Text} (absolute : text.head? = some '/') (place : Place) :
    origin text place = .root := if_pos absolute

theorem locate_of_absolute {text : Text} (absolute : text.head? = some '/') (one two : Place)
    (purpose : Purpose) : files.locate one text purpose = files.locate two text purpose := by
  simp only [locate, origin_of_absolute absolute]

end FileTree

/-! ## Histories -/

namespace World

variable {text : Text}

/-- What an absolute path leads to does not depend on the working directory. -/
theorem read_eq_of_files (absolute : text.head? = some '/') {one two : World}
    (same : one.files = two.files) : one.read text = two.read text := by
  simp only [read, FileTree.read, same]
  rw [FileTree.locate_of_absolute absolute one.place two.place]

theorem read_after_write {world after : World} {contents : Bytes}
    (written : world.write text contents = .ok after) :
    world.read text ≠ .error .accessDenied ∧ after.read text = .ok contents ∨
      world.read text = .error .accessDenied ∧ after.read text = .error .accessDenied := by
  unfold write at written
  split at written
  next files done =>
    cases written
    exact FileTree.read_after_write done
  next => cases written

theorem read_of_write {world after : World} {contents : Bytes}
    (written : world.write text contents = .ok after)
    (allowed : world.read text ≠ .error .accessDenied) : after.read text = .ok contents := by
  rcases read_after_write written with ⟨-, read⟩ | ⟨denied, -⟩
  · exact read
  · exact absurd denied allowed

end World

namespace HistoryFile

variable {path : Text}

theorem load_eq_of_files (absolute : path.head? = some '/') {one two : World}
    (same : one.files = two.files) : load one path = load two path := by
  rw [load, load, World.read_eq_of_files absolute same]

theorem read_ne_denied_of_load {world : World} {found : Option History}
    (loaded : load world path = .ok found) : world.read path ≠ .error .accessDenied := by
  intro denied
  simp [load, denied, Fault.isMissing, Fault.accessDenied, Fault.noSuchEntry] at loaded

/-- A history that has been saved in a file from which one could be loaded. -/
theorem read_of_save (absolute : path.head? = some '/') {before world after : World}
    (same : before.files = world.files) {found : Option History}
    (loaded : load before path = .ok found) {history : History} {limit : Nat}
    (saved : save world path history limit = .ok after) :
    after.read path = .ok (history.contents limit) := by
  rw [load_eq_of_files absolute same] at loaded
  exact World.read_of_write saved (read_ne_denied_of_load loaded)

end HistoryFile

end CommandShell
