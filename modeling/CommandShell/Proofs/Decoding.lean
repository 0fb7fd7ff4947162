import CommandShell.LineReader

namespace CommandShell

/-! Text that has been written as bytes is read back as it was. What is read from any bytes has
a character of ASCII, such as a line feed, exactly where the bytes have that of the character. -/

namespace Utf8

/-! ## Reading what has been written -/

theorem toNat_ofNat_of_lt {number : Nat} (small : number < 256) :
    (UInt8.ofNat number).toNat = number := by
  rw [UInt8.toNat_ofNat', Nat.mod_eq_of_lt (by simpa using small)]

theorem decodeFrom_cons (underway : Option Unfinished) (byte : UInt8) (rest : Bytes) :
    decodeFrom underway (byte :: rest) =
      (step byte underway).1 ++ decodeFrom (step byte underway).2 rest := rfl

theorem decodeFrom_single {number : Nat} (small : number < 0x80) (rest : Bytes) :
    decodeFrom none (UInt8.ofNat number :: rest) = Char.ofNat number :: decodeFrom none rest := by
  have value : (UInt8.ofNat number).toNat = number := toNat_ofNat_of_lt (by omega)
  simp only [decodeFrom_cons, step, stepFresh, value, small, if_true]
  rfl

theorem decodeFrom_announced {byte : UInt8} {unfinished : Unfinished}
    (announces : announced byte = some unfinished) (rest : Bytes) :
    decodeFrom none (byte :: rest) = decodeFrom (some unfinished) rest := by
  have high : ¬byte.toNat < 0x80 := by
    intro low
    have nothing : announced byte = none := by
      unfold announced
      dsimp only
      repeat rw [if_neg (by omega)]
    rw [nothing] at announces
    cases announces
  simp only [decodeFrom_cons, step, stepFresh, high, announces, if_false]
  rfl

theorem step_continuing {bits missing least greatest digit : Nat} (small : digit < 64)
    (within : least ≤ digit + 128 ∧ digit + 128 ≤ greatest) :
    step (UInt8.ofNat (digit + 128)) (some ⟨bits, missing, least, greatest⟩) =
      if missing = 1 then ([Char.ofNat (64 * bits + digit)], none)
      else ([], some ⟨64 * bits + digit, missing - 1, 0x80, 0xBF⟩) := by
  have value : (UInt8.ofNat (digit + 128)).toNat = digit + 128 := toNat_ofNat_of_lt (by omega)
  have low : (digit + 128) % 64 = digit := by omega
  simp only [step, value, within, low, and_self, if_true]

theorem announced_two : ∀ digit < 32, 2 ≤ digit →
    announced (UInt8.ofNat (digit + 192)) = some ⟨digit, 1, 0x80, 0xBF⟩ := by
  decide

theorem announced_three : ∀ digit < 16,
    announced (UInt8.ofNat (digit + 224)) =
      some ⟨digit, 2, if digit = 0 then 0xA0 else 0x80, if digit = 13 then 0x9F else 0xBF⟩ := by
  decide

theorem announced_four : ∀ digit < 5,
    announced (UInt8.ofNat (digit + 240)) =
      some ⟨digit, 3, if digit = 0 then 0x90 else 0x80, if digit = 4 then 0x8F else 0xBF⟩ := by
  decide

theorem decodeFrom_middle {bits missing least greatest digit : Nat} (small : digit < 64)
    (within : least ≤ digit + 128 ∧ digit + 128 ≤ greatest) (rest : Bytes) :
    decodeFrom (some ⟨bits, missing + 2, least, greatest⟩) (UInt8.ofNat (digit + 128) :: rest) =
      decodeFrom (some ⟨64 * bits + digit, missing + 1, 0x80, 0xBF⟩) rest := by
  rw [decodeFrom_cons, step_continuing small within, if_neg (by omega)]
  rfl

theorem decodeFrom_last {bits least greatest digit : Nat} (small : digit < 64)
    (within : least ≤ digit + 128 ∧ digit + 128 ≤ greatest) (rest : Bytes) :
    decodeFrom (some ⟨bits, 1, least, greatest⟩) (UInt8.ofNat (digit + 128) :: rest) =
      Char.ofNat (64 * bits + digit) :: decodeFrom none rest := by
  rw [decodeFrom_cons, step_continuing small within, if_pos rfl]
  rfl

theorem decodeFrom_encodeChar (character : Char) (rest : Bytes) :
    decodeFrom none (String.utf8EncodeChar character ++ rest) =
      character :: decodeFrom none rest := by
  have valid : character.toNat < 0xD800 ∨ 0xDFFF < character.toNat ∧ character.toNat < 0x110000 :=
    character.valid
  have same := Char.ofNat_toNat character
  have code : character.val.toNat = character.toNat := rfl
  unfold String.utf8EncodeChar
  dsimp only
  rw [code]
  generalize character.toNat = number at valid same
  subst same
  split
  · exact decodeFrom_single (by omega) rest
  · split
    · have lead := announced_two (number / 64 % 32) (by omega) (by omega)
      have joined : 64 * (number / 64 % 32) + number % 64 = number := by omega
      simp only [List.cons_append, List.nil_append]
      rw [decodeFrom_announced lead, decodeFrom_last (by omega) (by omega), joined]
    · split
      · have lead := announced_three (number / 4096 % 16) (by omega)
        have joined : 64 * (64 * (number / 4096 % 16) + number / 64 % 64) + number % 64 =
            number := by omega
        have within : (if number / 4096 % 16 = 0 then 0xA0 else 0x80) ≤ number / 64 % 64 + 128 ∧
            number / 64 % 64 + 128 ≤ if number / 4096 % 16 = 13 then 0x9F else 0xBF := by
          split <;> split <;> omega
        simp only [List.cons_append, List.nil_append]
        rw [decodeFrom_announced lead, decodeFrom_middle (by omega) within,
          decodeFrom_last (by omega) (by omega), joined]
      · have lead := announced_four (number / 262144 % 8) (by omega)
        have joined : 64 * (64 * (64 * (number / 262144 % 8) + number / 4096 % 64) +
            number / 64 % 64) + number % 64 = number := by omega
        have within : (if number / 262144 % 8 = 0 then 0x90 else 0x80) ≤
              number / 4096 % 64 + 128 ∧
            number / 4096 % 64 + 128 ≤ if number / 262144 % 8 = 4 then 0x8F else 0xBF := by
          split <;> split <;> omega
        simp only [List.cons_append, List.nil_append]
        rw [decodeFrom_announced lead, decodeFrom_middle (by omega) within,
          decodeFrom_middle (by omega) (by omega), decodeFrom_last (by omega) (by omega), joined]

theorem decodeLossy_encode (text : Text) : decodeLossy (encode text) = text := by
  induction text with
  | nil => rfl
  | cons character rest induction =>
    rw [decodeLossy, encode, List.flatMap_cons, decodeFrom_encodeChar]
    exact congrArg (character :: ·) induction

/-! ## Marks -/

theorem eq_of_ofNat_eq {number code : Nat} (positive : 0 < code) (low : code < 0x80)
    (same : Char.ofNat number = Char.ofNat code) : number = code := by
  have isValid : code.isValidChar := .inl (by omega)
  rw [Char.ofNat, Char.ofNat, dif_pos isValid] at same
  by_cases valid : number.isValidChar
  · rw [dif_pos valid] at same
    exact congrArg Char.toNat same
  · rw [dif_neg valid] at same
    have zero : 0 = code := congrArg Char.toNat same
    omega

/-- A byte that stands for a character of ASCII. -/
structure Denotes (byte : UInt8) (character : Char) : Prop where
  same : character = Char.ofNat byte.toNat
  positive : 0 < byte.toNat
  low : byte.toNat < 0x80

theorem denotes_lineFeed : Denotes LineReader.lineFeed '\n' :=
  ⟨rfl, by decide, by decide⟩

theorem denotes_carriageReturn : Denotes LineReader.carriageReturn '\x0D' :=
  ⟨rfl, by decide, by decide⟩

/-- Whether a character under way will be none of ASCII, whatever bytes complete it. -/
def Unfinished.IsHigh (unfinished : Unfinished) : Prop :=
  0x80 ≤ unfinished.least ∧ unfinished.greatest ≤ 0xBF ∧
    (unfinished.missing = 1 ∧ 2 ≤ unfinished.bits ∨
      unfinished.missing = 2 ∧ (1 ≤ unfinished.bits ∨ 0xA0 ≤ unfinished.least) ∨
      unfinished.missing = 3 ∧ (1 ≤ unfinished.bits ∨ 0x90 ≤ unfinished.least))

theorem isHigh_announced {byte : UInt8} {unfinished : Unfinished}
    (announces : announced byte = some unfinished) : unfinished.IsHigh := by
  unfold announced at announces
  dsimp only at announces
  repeat' split at announces
  all_goals simp only [reduceCtorEq, Option.some.injEq] at announces
  all_goals
    subst announces
    simp [Unfinished.IsHigh] <;> omega

theorem isHigh_none : ∀ unfinished ∈ (none : Option Unfinished), unfinished.IsHigh := nofun

theorem isHigh_stepFresh (byte : UInt8) :
    ∀ unfinished ∈ (stepFresh byte).2, unfinished.IsHigh := by
  unfold stepFresh
  split
  · nofun
  · split
    next unfinished announces => simpa using isHigh_announced announces
    next => nofun

theorem isHigh_step (byte : UInt8) {underway : Option Unfinished}
    (high : ∀ unfinished ∈ underway, unfinished.IsHigh) :
    ∀ unfinished ∈ (step byte underway).2, unfinished.IsHigh := by
  cases underway with
  | none => exact isHigh_stepFresh byte
  | some unfinished =>
    rcases high unfinished rfl with ⟨least, greatest, cases⟩
    unfold step
    dsimp only
    split
    next within =>
      split
      · nofun
      · simp only [Option.mem_def, Option.some.injEq, forall_eq']
        unfold Unfinished.IsHigh
        dsimp only
        omega
    next => exact isHigh_stepFresh byte

section

variable {mark : UInt8} {character : Char} {underway : Option Unfinished}

theorem Denotes.ne_replacement (denotes : Denotes mark character) : character ≠ replacement := by
  rintro rfl
  have same : Char.ofNat 0xFFFD = Char.ofNat mark.toNat := denotes.same
  have code := eq_of_ofNat_eq denotes.positive denotes.low same
  have low := denotes.low
  omega

theorem Denotes.eq_of_mem_stepFresh (denotes : Denotes mark character) {byte : UInt8}
    (member : character ∈ (stepFresh byte).1) : byte = mark := by
  unfold stepFresh at member
  split at member
  · have same := List.mem_singleton.mp member
    rw [denotes.same] at same
    exact UInt8.toNat_inj.mp (eq_of_ofNat_eq denotes.positive denotes.low same.symm)
  · split at member
    · cases member
    · exact absurd (List.mem_singleton.mp member) denotes.ne_replacement

/-- No byte but its own brings a character of ASCII forth. -/
theorem Denotes.eq_of_mem_step (denotes : Denotes mark character) {byte : UInt8}
    (high : ∀ unfinished ∈ underway, unfinished.IsHigh)
    (member : character ∈ (step byte underway).1) : byte = mark := by
  cases underway with
  | none => exact denotes.eq_of_mem_stepFresh member
  | some unfinished =>
    rcases high unfinished rfl with ⟨-, -, cases⟩
    unfold step at member
    dsimp only at member
    split at member
    next within =>
      split at member
      next last =>
        have same := List.mem_singleton.mp member
        rw [denotes.same] at same
        have code := eq_of_ofNat_eq denotes.positive denotes.low same.symm
        have low := denotes.low
        omega
      next => cases member
    next =>
      rcases List.mem_cons.mp member with replaced | fresh
      · exact absurd replaced denotes.ne_replacement
      · exact denotes.eq_of_mem_stepFresh fresh

/-- A byte of ASCII ends what is under way and stands for its character. -/
theorem Denotes.step_eq (denotes : Denotes mark character)
    (high : ∀ unfinished ∈ underway, unfinished.IsHigh) :
    step mark underway = (decodeFrom underway [] ++ [character], none) := by
  have fresh : stepFresh mark = ([character], none) := by
    rw [stepFresh, if_pos denotes.low, denotes.same]
  cases underway with
  | none => exact fresh
  | some unfinished =>
    rcases high unfinished rfl with ⟨least, -, -⟩
    have low := denotes.low
    have apart : ¬(unfinished.least ≤ mark.toNat ∧ mark.toNat ≤ unfinished.greatest) := by omega
    simp only [step, if_neg apart, fresh]
    rfl

/-- Reading starts afresh behind a byte of ASCII. -/
theorem Denotes.decodeFrom_append (denotes : Denotes mark character)
    (high : ∀ unfinished ∈ underway, unfinished.IsHigh) (front behind : Bytes) :
    decodeFrom underway (front ++ mark :: behind) =
      decodeFrom underway front ++ character :: decodeFrom none behind := by
  induction front generalizing underway with
  | nil => rw [List.nil_append, decodeFrom_cons, denotes.step_eq high, List.append_assoc]; rfl
  | cons byte rest induction =>
    rw [List.cons_append, decodeFrom_cons, induction (isHigh_step byte high), decodeFrom_cons,
      List.append_assoc]

theorem Denotes.mem_of_mem_decodeFrom (denotes : Denotes mark character)
    (high : ∀ unfinished ∈ underway, unfinished.IsHigh) {bytes : Bytes}
    (member : character ∈ decodeFrom underway bytes) : mark ∈ bytes := by
  induction bytes generalizing underway with
  | nil =>
    rw [decodeFrom] at member
    split at member
    · exact absurd (List.mem_singleton.mp member) denotes.ne_replacement
    · cases member
  | cons byte rest induction =>
    rw [decodeFrom_cons, List.mem_append] at member
    rcases member with here | later
    · rw [denotes.eq_of_mem_step high here]
      exact List.mem_cons_self
    · exact List.mem_cons_of_mem byte (induction (isHigh_step byte high) later)

theorem Denotes.decodeLossy_append (denotes : Denotes mark character) (front behind : Bytes) :
    decodeLossy (front ++ mark :: behind) =
      decodeLossy front ++ character :: decodeLossy behind :=
  denotes.decodeFrom_append isHigh_none front behind

theorem Denotes.mem_decodeLossy_iff (denotes : Denotes mark character) (bytes : Bytes) :
    character ∈ decodeLossy bytes ↔ mark ∈ bytes := by
  constructor
  · exact denotes.mem_of_mem_decodeFrom isHigh_none
  · intro member
    rcases List.append_of_mem member with ⟨front, behind, rfl⟩
    rw [denotes.decodeLossy_append]
    exact List.mem_append_right _ List.mem_cons_self

end

theorem lineFeed_not_mem_decodeLossy {bytes : Bytes} (without : 0x0A ∉ bytes) :
    '\n' ∉ decodeLossy bytes :=
  mt (denotes_lineFeed.mem_decodeLossy_iff bytes).mp without

end Utf8

namespace LineReader

theorem fetch_line {buffer line rest : Bytes} {deliveries unused : List Bytes}
    (fetched : fetch buffer deliveries = some (line, rest, unused)) : lineFeed ∉ line := by
  induction deliveries generalizing buffer line with
  | nil =>
    rcases Option.map_eq_some_iff.mp fetched with ⟨⟨before, after⟩, cut, same⟩
    cases same
    exact ((Cut.once_eq_some_iff _ _ _ _).mp cut).2
  | cons delivery deliveries induction =>
    rw [fetch] at fetched
    split at fetched
    next before after cut =>
      cases fetched
      exact ((Cut.once_eq_some_iff _ _ _ _).mp cut).2
    next absent =>
      rcases Option.map_eq_some_iff.mp fetched with ⟨⟨before, after, others⟩, later, same⟩
      cases same
      rw [List.mem_append, not_or]
      exact ⟨(Cut.once_eq_none_iff _ _).mp absent, induction later⟩

theorem fetch_nothing {buffer : Bytes} {deliveries : List Bytes}
    (nothing : fetch buffer deliveries = none) : lineFeed ∉ buffer ++ deliveries.flatten := by
  induction deliveries generalizing buffer with
  | nil =>
    rw [List.flatten_nil, List.append_nil]
    exact (Cut.once_eq_none_iff _ _).mp (Option.map_eq_none_iff.mp nothing)
  | cons delivery deliveries induction =>
    rw [fetch] at nothing
    split at nothing
    · cases nothing
    next absent =>
      rw [List.mem_append, not_or]
      exact ⟨(Cut.once_eq_none_iff _ _).mp absent, induction (Option.map_eq_none_iff.mp nothing)⟩

theorem dropCarriageReturn_subset (bytes : Bytes) : dropCarriageReturn bytes ⊆ bytes := by
  unfold dropCarriageReturn
  split
  · exact List.dropLast_subset bytes
  · exact List.Subset.refl bytes

theorem lineFeed_not_mem_line {bytes : Bytes} (without : lineFeed ∉ bytes) {text : Text}
    (read : Decoding.lossy.line bytes = .line text) : '\n' ∉ text := by
  cases read
  exact Utf8.lineFeed_not_mem_decodeLossy (mt (dropCarriageReturn_subset bytes ·) without)

/-- A line holds no line feed. -/
theorem lineFeed_not_mem_next {reader : LineReader} (lossy : reader.decoding = .lossy)
    {text : Text} (read : reader.next.1 = .line text) : '\n' ∉ text := by
  unfold next at read
  split at read
  next line buffer deliveries fetched =>
    rw [lossy] at read
    exact lineFeed_not_mem_line (fetch_line fetched) read
  next nothing =>
    dsimp only at read
    split at read
    · cases read
    · split at read
      · cases read
      · rw [lossy] at read
        exact lineFeed_not_mem_line (fetch_nothing nothing) read

theorem lineFeed_not_mem_readings {reader : LineReader} (lossy : reader.decoding = .lossy)
    {text : Text} (member : .line text ∈ reader.readings) : '\n' ∉ text := by
  have within : ∀ (limit : Nat) (reader : LineReader), reader.decoding = .lossy →
      .line text ∈ readingsWithin limit reader → '\n' ∉ text := by
    intro limit
    induction limit with
    | zero => simp [readingsWithin]
    | succ limit induction =>
      intro reader lossy member
      have onward := reader.decoding_next
      rw [readingsWithin] at member
      split at member
      next first rest read =>
        rw [read] at onward
        rcases List.mem_cons.mp member with here | later
        · cases here
          exact lineFeed_not_mem_next lossy (congrArg Prod.fst read)
        · exact induction rest (onward.trans lossy) later
      next reading rest notLine read =>
        have last := List.mem_singleton.mp member
        exact absurd last.symm (notLine text)
  exact within _ reader lossy member

end LineReader

end CommandShell
