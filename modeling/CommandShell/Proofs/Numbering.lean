import CommandShell.History

namespace CommandShell

/-! The history as a store that keeps the number of each entry and a counter for the next one.
What the operations of such a store lead to are the histories, in which the numbers are
positions, and nothing else. -/

structure NumberedHistory where
  entries : List (Nat × Text) := []
  nextNumber : Nat := 1
  deriving DecidableEq, Repr

namespace NumberedHistory

def push (store : NumberedHistory) (text : Text) : NumberedHistory where
  entries := store.entries ++ [(store.nextNumber, text)]
  nextNumber := store.nextNumber + 1

/-- The store of a file, whose records are pushed in their order. -/
def ofContents (bytes : Bytes) : NumberedHistory :=
  (History.records (Utf8.decodeLossy bytes)).foldl push {}

/-- The bytes of a file with the latest entries, at most so many. -/
def contents (store : NumberedHistory) (count : Nat) : Bytes :=
  let start := store.entries.length - count
  Utf8.encode (History.record ((store.entries.drop start).map Prod.snd))

/-- The stores that loading and pushing lead to. -/
inductive Built : NumberedHistory → Prop
  | empty : Built {}
  | load (bytes : Bytes) : Built (ofContents bytes)
  | push {store : NumberedHistory} (built : Built store) (text : Text) : Built (store.push text)

def ofHistory (history : History) : NumberedHistory where
  entries := history.entries
  nextNumber := history.nextNumber

theorem ofHistory_push (history : History) (text : Text) :
    ofHistory (history.push text) = (ofHistory history).push text := by
  rw [ofHistory, History.entries_push]
  rfl

theorem foldl_push (texts : List Text) (history : History) :
    texts.foldl push (ofHistory history) = ofHistory ⟨texts.reverse ++ history.latest⟩ := by
  induction texts generalizing history with
  | nil => rfl
  | cons text rest induction =>
    rw [List.foldl_cons, ← ofHistory_push, induction, History.push, List.reverse_cons,
      List.append_assoc, List.singleton_append]

theorem ofHistory_ofContents (bytes : Bytes) :
    ofHistory (History.ofContents bytes) = ofContents bytes := by
  have pushed := foldl_push (History.records (Utf8.decodeLossy bytes)) {}
  rw [List.append_nil] at pushed
  exact pushed.symm

theorem contents_ofHistory (history : History) (count : Nat) :
    (ofHistory history).contents count = history.contents count := by
  have texts : history.entries.map Prod.snd = history.texts := by
    rw [History.entries_eq_zip, List.map_snd_zip (Nat.le_of_eq List.length_range'.symm)]
  have length : history.entries.length = history.texts.length := by
    rw [← texts, List.length_map]
  rw [contents, History.contents, History.newest_eq_drop, ofHistory, List.map_drop, texts, length]

/-- Whatever is loaded or pushed, the store is that of a history, and every history has one. -/
theorem built_iff (store : NumberedHistory) :
    Built store ↔ ∃ history, ofHistory history = store := by
  constructor
  · intro built
    induction built with
    | empty => exact ⟨{}, rfl⟩
    | load bytes => exact ⟨_, ofHistory_ofContents bytes⟩
    | push _ text induction =>
      rcases induction with ⟨history, rfl⟩
      exact ⟨_, ofHistory_push history text⟩
  · rintro ⟨⟨latest⟩, rfl⟩
    induction latest with
    | nil => exact .empty
    | cons text rest induction =>
      have pushed := Built.push induction text
      rwa [← ofHistory_push] at pushed

end NumberedHistory

end CommandShell
