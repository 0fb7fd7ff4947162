import CommandShell.Text.Utf8

namespace CommandShell

/-! The history holds the accepted lines in the order of their execution. An
entry's number is its position, counted from one. Between two sessions the
history lies in a file with one record per line. -/

structure History where
  /-- The texts, the latest first. -/
  latest : List Text := []
  deriving DecidableEq, Repr

namespace History

instance : Inhabited History := ⟨{}⟩

/-- The texts in the order of their numbers. -/
def texts (history : History) : List Text :=
  history.latest.reverse

def ofTexts (texts : List Text) : History where
  latest := texts.reverse

def push (history : History) (text : Text) : History where
  latest := text :: history.latest

@[simp] theorem texts_ofTexts (texts : List Text) : (ofTexts texts).texts = texts :=
  List.reverse_reverse texts

@[simp] theorem texts_push (history : History) (text : Text) :
    (history.push text).texts = history.texts ++ [text] :=
  List.reverse_cons

def nextNumber (history : History) : Nat :=
  history.latest.length + 1

def entries (history : History) : List (Nat × Text) :=
  history.texts.zipIdx 1 |>.map fun (text, number) => (number, text)

theorem nextNumber_eq (history : History) : history.nextNumber = history.texts.length + 1 := by
  simp [nextNumber, texts]

/-- The entries are numbered from one on without a gap. -/
theorem entries_eq_zip (history : History) :
    history.entries = (List.range' 1 history.texts.length).zip history.texts := by
  apply List.zip_of_prod
  · rw [entries, List.map_map]
    exact List.zipIdx_map_snd 1 history.texts
  · rw [entries, List.map_map]
    exact List.zipIdx_map_fst 1 history.texts

theorem entries_push (history : History) (text : Text) :
    (history.push text).entries = history.entries ++ [(history.nextNumber, text)] := by
  simp [entries, List.zipIdx_append, nextNumber_eq, Nat.add_comm]

/-- An entry in the listing: its number at the right of five columns, two blanks,
its text. -/
def describe (number : Nat) (text : Text) : Text :=
  Text.padLeft 5 (Text.ofNat number) ++ [' ', ' '] ++ text

/-! ## Its file -/

def newest (history : History) (count : Nat) : List Text :=
  (history.latest.take count).reverse

theorem newest_eq_drop (history : History) (count : Nat) :
    history.newest count = history.texts.drop (history.texts.length - count) := by
  simp [newest, texts, List.reverse_take]

def record (texts : List Text) : Text :=
  texts.flatMap fun text => text ++ ['\n']

def contents (history : History) (count : Nat) : Bytes :=
  Utf8.encode (record (history.newest count))

/-- Reads on in a line whose characters so far stand reversed in `line`. A line
ends at a line feed, together with a carriage return right before that; a last
line without a line feed stays as it is. -/
def linesFrom (line : Text) : Text → List Text
  | [] => if line.isEmpty then [] else [line.reverse]
  | '\n' :: rest => Text.dropLastIf '\x0D' line.reverse :: linesFrom [] rest
  | character :: rest => linesFrom (character :: line) rest

/-- The records of a file: its lines, of which the empty ones do not count. -/
def records (text : Text) : List Text :=
  (linesFrom [] text).filter fun line => !line.isEmpty

def ofContents (bytes : Bytes) : History :=
  ofTexts (records (Utf8.decodeLossy bytes))

end History

end CommandShell
