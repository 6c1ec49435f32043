import TradeLocal.WaitStatus

/-!
# Decoding a wait status

A status tells of one ending or of none, and all its readings tell the same: which it is depends on
the low seven bits of the word and on its second byte alone.  The statuses that are made of a code
or of a signal are read back up to the bits that count.
-/

namespace TradeLocal.WaitStatus

/-- The ending that the bits of a word report.  None of the low seven set stands for an exit, all of
them for no ending. -/
def endingOfBits (raw : Int32) : Option Ending :=
  if raw &&& 0x7f = 0x7f then none
  else if raw &&& 0x7f = 0 then some (.exited ((raw &&& 0xff00) >>> 8).toNatClampNeg)
  else some (.signaled (raw &&& 0x7f).toNatClampNeg)

/-- Every reading of the status agrees that it is this ending. -/
inductive Tells (status : WaitStatus) : Option Ending → Prop where
  | exited {code : Nat} (bound : code ≤ 255)
      (kind : status.exited = true ∧ status.signaled = false)
      (parts : status.exitCode? = some code ∧ status.signal? = none)
      (shellCode : status.shellCode? = some code)
      (text : status.text = ascii "exit(" ++ Bytes.ofNat code ++ ascii ")") :
      Tells status (some (.exited code))
  | signaled {signal : Nat} (bound : 1 ≤ signal ∧ signal ≤ 126)
      (kind : status.exited = false ∧ status.signaled = true)
      (parts : status.exitCode? = none ∧ status.signal? = some signal)
      (shellCode : status.shellCode? = some (128 + signal))
      (text : status.text = ascii "signal(" ++ Bytes.ofNat signal ++ ascii ")") :
      Tells status (some (.signaled signal))
  | unended (kind : status.exited = false ∧ status.signaled = false)
      (parts : status.exitCode? = none ∧ status.signal? = none)
      (shellCode : status.shellCode? = none)
      (text : status.text = ascii "status(" ++ Bytes.ofInt status.raw.toInt ++ ascii ")") :
      Tells status none

/-- Whether a signal is reported, found out in one byte with a sign. -/
def signalTest (raw : Int32) : Bool :=
  0 < ((raw &&& 0x7f) + 1).toInt8 >>> (1 : Int8)

variable {status : WaitStatus}

theorem lowBits_lt (status : WaitStatus) : status.lowBits < 128 := by
  unfold lowBits
  omega

theorem secondByte_lt (status : WaitStatus) : status.secondByte < 256 := by
  unfold secondByte
  omega

theorem toInt_emod (word : Int32) :
    word.toInt % 65536 = (word.toBitVec.toNat % 65536 : Nat) := by
  show word.toBitVec.toInt % 65536 = _
  rw [BitVec.toInt_eq_toNat_cond]
  split <;> omega

theorem toInt_and {mask : Int32} (unsigned : mask.toBitVec.toNat < 65536) (word : Int32) :
    (word &&& mask).toInt = (word.toBitVec.toNat &&& mask.toBitVec.toNat : Nat) := by
  have small : word.toBitVec.toNat &&& mask.toBitVec.toNat < 65536 :=
    Nat.lt_of_le_of_lt Nat.and_le_right unsigned
  show (word &&& mask).toBitVec.toInt = _
  rw [Int32.toBitVec_and, BitVec.toInt_eq_toNat_of_lt]
  · rw [BitVec.toNat_and]
  · rw [BitVec.toNat_and]
    omega

theorem toInt_and_low (word : Int32) : (word &&& 0x7f).toInt = word.toInt % 128 := by
  have low : word.toBitVec.toNat &&& 127 = word.toBitVec.toNat % 128 :=
    Nat.and_two_pow_sub_one_eq_mod _ 7
  have unsigned := toInt_emod word
  rw [toInt_and (by decide)]
  show ((word.toBitVec.toNat &&& 127 : Nat) : Int) = _
  omega

theorem toInt_secondByte (word : Int32) :
    ((word &&& 0xff00) >>> 8).toInt = word.toInt / 256 % 256 := by
  -- The shift would repeat the sign bit; the mask has cleared it.
  have shifted : ((word &&& 0xff00) >>> 8).toInt =
      (word &&& 0xff00).toInt >>> (8 : Nat) := by
    have places : (8 : Int32).toBitVec.smod 32 = 8#32 := by decide
    show ((word &&& 0xff00) >>> 8).toBitVec.toInt = _
    rw [Int32.toBitVec_shiftRight, places, BitVec.sshiftRight_eq', BitVec.toInt_sshiftRight]
    rfl
  have second : (word.toBitVec.toNat &&& 0xff00) >>> 8 = word.toBitVec.toNat / 256 % 256 := by
    rw [Nat.shiftRight_and_distrib, Nat.shiftRight_eq_div_pow]
    exact Nat.and_two_pow_sub_one_eq_mod _ 8
  have unsigned := toInt_emod word
  rw [shifted, toInt_and (by decide)]
  show (((word.toBitVec.toNat &&& 0xff00) >>> 8 : Nat) : Int) = _
  omega

theorem toInt_codeBits (code : Int32) :
    ((code &&& 0xff) <<< 8).toInt = code.toInt % 256 * 256 := by
  have low : code.toBitVec.toNat &&& 255 = code.toBitVec.toNat % 256 :=
    Nat.and_two_pow_sub_one_eq_mod _ 8
  have unsigned := toInt_emod code
  have shifted : ((code &&& 0xff) <<< 8).toBitVec.toNat = code.toBitVec.toNat % 256 * 256 := by
    have places : (8 : Int32).toBitVec.smod 32 = 8#32 := by decide
    rw [Int32.toBitVec_shiftLeft, Int32.toBitVec_and, places, BitVec.shiftLeft_eq',
      BitVec.toNat_shiftLeft, BitVec.toNat_and, Nat.shiftLeft_eq]
    show (code.toBitVec.toNat &&& 255) * 256 % 2 ^ 32 = _
    omega
  show ((code &&& 0xff) <<< 8).toBitVec.toInt = _
  rw [BitVec.toInt_eq_toNat_of_lt]
  · omega
  · omega

theorem lowBits_eq_toNat (status : WaitStatus) :
    status.lowBits = (status.raw &&& 0x7f).toNatClampNeg := by
  rw [lowBits, ← toInt_and_low]
  rfl

theorem secondByte_eq_toNat (status : WaitStatus) :
    status.secondByte = ((status.raw &&& 0xff00) >>> 8).toNatClampNeg := by
  rw [secondByte, ← toInt_secondByte]
  rfl

theorem lowBits_eq_iff {bits : Nat} (small : bits < 128) :
    status.lowBits = bits ↔ status.raw &&& 0x7f = Int32.ofNat bits := by
  have value : (Int32.ofNat bits).toInt = bits := Int32.toInt_ofNat_of_lt (by omega)
  rw [← Int32.toInt_inj, toInt_and_low, value, lowBits]
  omega

theorem ending?_eq (status : WaitStatus) :
    status.ending? =
      if status.lowBits = 127 then none
      else if status.lowBits = 0 then some (.exited status.secondByte)
      else some (.signaled status.lowBits) := by
  by_cases unended : status.lowBits = 127
  · simp [ending?, WaitStatus.exited, WaitStatus.signaled, unended]
  · by_cases zero : status.lowBits = 0
    · simp [ending?, WaitStatus.exited, zero]
    · simp [ending?, WaitStatus.exited, WaitStatus.signaled, unended, zero]

theorem ending?_eq_endingOfBits (status : WaitStatus) :
    status.ending? = endingOfBits status.raw := by
  have allSet : status.lowBits = 127 ↔ status.raw &&& 0x7f = 0x7f := lowBits_eq_iff (by omega)
  have noneSet : status.lowBits = 0 ↔ status.raw &&& 0x7f = 0 := lowBits_eq_iff (by omega)
  unfold endingOfBits
  rw [ending?_eq, ← lowBits_eq_toNat, ← secondByte_eq_toNat]
  simp only [allSet, noneSet]

theorem shellCode?_of_lowBits (ended : status.lowBits ≠ 127) :
    status.shellCode? =
      some (if status.lowBits = 0 then status.secondByte else 128 + status.lowBits) := by
  unfold shellCode?
  rw [ending?_eq, if_neg ended]
  split
  · rfl
  · rfl

theorem shellCode?_eq_none_iff : status.shellCode? = none ↔ status.raw &&& 0x7f = 0x7f := by
  have allSet : status.lowBits = 127 ↔ status.raw &&& 0x7f = 0x7f := lowBits_eq_iff (by omega)
  by_cases unended : status.lowBits = 127
  · simp [shellCode?, ending?_eq, unended, allSet.mp unended]
  · simp [shellCode?_of_lowBits unended, ← allSet, unended]

theorem shellCode?_lt {code : Nat} (known : status.shellCode? = some code) : code < 256 := by
  have ended : status.lowBits ≠ 127 := by
    intro unended
    simp [shellCode?, ending?_eq, unended] at known
  rw [shellCode?_of_lowBits ended, Option.some.injEq] at known
  have := status.secondByte_lt
  have := status.lowBits_lt
  split at known
  · omega
  · omega

theorem tells_ending? (status : WaitStatus) : status.Tells status.ending? := by
  by_cases unended : status.lowBits = 127
  · have ending : status.ending? = none := by simp [ending?_eq, unended]
    rw [ending]
    apply Tells.unended
    · simp [WaitStatus.exited, WaitStatus.signaled, unended]
    · simp [exitCode?, signal?, WaitStatus.exited, WaitStatus.signaled, unended]
    · simp [shellCode?, ending]
    · simp [text, ending]
  · by_cases zero : status.lowBits = 0
    · have ending : status.ending? = some (.exited status.secondByte) := by simp [ending?_eq, zero]
      have bound := status.secondByte_lt
      rw [ending]
      apply Tells.exited
      · omega
      · simp [WaitStatus.exited, WaitStatus.signaled, zero]
      · simp [exitCode?, signal?, WaitStatus.exited, WaitStatus.signaled, zero]
      · simp [shellCode?, ending, Ending.shellCode]
      · simp [text, ending, Ending.text]
    · have ending : status.ending? = some (.signaled status.lowBits) := by
        simp [ending?_eq, unended, zero]
      have bound := status.lowBits_lt
      rw [ending]
      apply Tells.signaled
      · omega
      · simp [WaitStatus.exited, WaitStatus.signaled, unended, zero]
      · simp [exitCode?, signal?, WaitStatus.exited, WaitStatus.signaled, unended, zero]
      · simp [shellCode?, ending, Ending.shellCode]
      · simp [text, ending, Ending.text]

theorem Tells.eq_ending? {ending : Option Ending} (tells : status.Tells ending) :
    ending = status.ending? := by
  cases tells with
  | exited _ kind parts =>
      obtain ⟨known, -⟩ := parts
      simp only [exitCode?, kind.1, if_true, Option.some.injEq] at known
      simp [ending?, kind, known]
  | signaled _ kind parts =>
      obtain ⟨-, known⟩ := parts
      simp only [signal?, kind.2, if_true, Option.some.injEq] at known
      simp [ending?, kind, known]
  | unended kind => simp [ending?, kind]

theorem tells_iff {ending : Option Ending} :
    status.Tells ending ↔ ending = endingOfBits status.raw := by
  rw [← ending?_eq_endingOfBits]
  constructor
  · exact Tells.eq_ending?
  · rintro rfl
    exact status.tells_ending?

theorem unended_iff :
    status.exited = false ∧ status.signaled = false ↔ status.raw &&& 0x7f = 0x7f := by
  have allSet : status.lowBits = 127 ↔ status.raw &&& 0x7f = 0x7f := lowBits_eq_iff (by omega)
  rw [← allSet]
  simp only [WaitStatus.exited, WaitStatus.signaled, beq_eq_false_iff_ne, bne_eq_false_iff_eq,
    Bool.and_eq_false_iff]
  omega

theorem signaled_eq_signalTest (status : WaitStatus) :
    status.signaled = signalTest status.raw := by
  have test : ∀ bits < 128, (bits != 0 && bits != 127) =
      decide (0 < (Int32.ofNat bits + 1).toInt8 >>> (1 : Int8)) := by
    decide +kernel
  have low : status.raw &&& 0x7f = Int32.ofNat status.lowBits :=
    (lowBits_eq_iff status.lowBits_lt).mp rfl
  unfold signalTest
  rw [low]
  exact test status.lowBits status.lowBits_lt

theorem endingOfBits_congr {first second : Int32}
    (same : first &&& 0xff7f = second &&& 0xff7f) : endingOfBits first = endingOfBits second := by
  have low (word : Int32) : word &&& 0x7f = (word &&& 0xff7f) &&& 0x7f := by
    rw [Int32.and_assoc]
    rfl
  have high (word : Int32) : word &&& 0xff00 = (word &&& 0xff7f) &&& 0xff00 := by
    rw [Int32.and_assoc]
    rfl
  unfold endingOfBits
  rw [low first, low second, high first, high second, same]

theorem raw_ofExitCode (code : Int32) : (ofExitCode code).raw = (code &&& 0xff) <<< 8 := by
  rw [ofExitCode, ← toInt_codeBits, Int32.ofInt_toInt]

theorem raw_ofSignal (signal : Int32) : (ofSignal signal).raw = signal &&& 0x7f := by
  rw [ofSignal, ← toInt_and_low, Int32.ofInt_toInt]

theorem ending?_ofExitCode (code : Int32) :
    (ofExitCode code).ending? = some (.exited (code.toInt % 256).toNat) := by
  have low : (ofExitCode code).lowBits = 0 := by
    rw [lowBits, raw_ofExitCode, toInt_codeBits]
    omega
  have second : (ofExitCode code).secondByte = (code.toInt % 256).toNat := by
    rw [secondByte, raw_ofExitCode, toInt_codeBits]
    omega
  simp [ending?_eq, low, second]

theorem ending?_ofSignal (signal : Int32) :
    let residue := (signal.toInt % 128).toNat
    (ofSignal signal).ending? =
      if residue = 127 then none
      else if residue = 0 then some (.exited 0)
      else some (.signaled residue) := by
  intro residue
  have low : (ofSignal signal).lowBits = residue := by
    rw [lowBits, raw_ofSignal, toInt_and_low]
    omega
  have second : (ofSignal signal).secondByte = 0 := by
    rw [secondByte, raw_ofSignal, toInt_and_low]
    omega
  rw [ending?_eq, low, second]

/-- The bits of a word decide what its status tells, in one of three ways, and the core dump bit
and the bits above the second byte do not count.  A code is read back modulo 256 and a signal
modulo 128, where no signal reads as an exit and all bits set as no ending. -/
theorem tells_of_bits :
    (∀ (status : WaitStatus) ending, status.Tells ending ↔ ending = endingOfBits status.raw) ∧
    (∀ status : WaitStatus, ¬(status.exited = true ∧ status.signaled = true) ∧
      (status.exited = false ∧ status.signaled = false ↔ status.raw &&& 0x7f = 0x7f) ∧
      status.signaled = signalTest status.raw) ∧
    (∀ first second : WaitStatus, first.raw &&& 0xff7f = second.raw &&& 0xff7f →
      first.shellCode? = second.shellCode?) ∧
    (∀ code : Int32, (ofExitCode code).raw = (code &&& 0xff) <<< 8 ∧
      (ofExitCode code).Tells (some (.exited (code.toInt % 256).toNat))) ∧
    ∀ signal : Int32, (ofSignal signal).raw = signal &&& 0x7f ∧
      let residue := (signal.toInt % 128).toNat
      (ofSignal signal).Tells
        (if residue = 127 then none
        else if residue = 0 then some (.exited 0)
        else some (.signaled residue)) := by
  refine ⟨fun status ending => tells_iff, ?_, ?_, ?_, ?_⟩
  · intro status
    refine ⟨?_, unended_iff, status.signaled_eq_signalTest⟩
    rintro ⟨exited, signaled⟩
    have zero : status.lowBits = 0 := by simpa [WaitStatus.exited] using exited
    simp [WaitStatus.signaled, zero] at signaled
  · intro first second same
    rw [shellCode?, shellCode?, ending?_eq_endingOfBits, ending?_eq_endingOfBits,
      endingOfBits_congr same]
  · intro code
    refine ⟨raw_ofExitCode code, ?_⟩
    rw [← ending?_ofExitCode]
    exact tells_ending? _
  · intro signal
    refine ⟨raw_ofSignal signal, ?_⟩
    intro residue
    have ended := ending?_ofSignal signal
    exact ended ▸ tells_ending? _

end TradeLocal.WaitStatus
