import Mathlib.Data.List.Induction
import Mathlib.Data.List.TakeWhile
import TradeLocal.Bytes

/-!
# Parts of byte strings

Texts are read by splitting off the longest front of bytes of one kind.  Here such a split is
described by the two parts alone, and the lines of a text by where they stand in it.
-/

namespace TradeLocal.Bytes

variable {keep : UInt8 → Bool} {text front back : Bytes}

theorem head?_dropWhile (keep : UInt8 → Bool) (text : Bytes) :
    ((text.dropWhile keep).head?.all fun next => !keep next) = true := by
  rw [← List.find?_not_eq_head?_dropWhile, Option.all_eq_true]
  intro next found
  exact List.find?_some (p := fun next => !keep next) found

theorem split_iff :
    text.takeWhile keep = front ∧ text.dropWhile keep = back ↔
      text = front ++ back ∧ (∀ byte ∈ front, keep byte = true) ∧
        (back.head?.all fun next => !keep next) = true := by
  constructor
  · rintro ⟨rfl, rfl⟩
    exact ⟨List.takeWhile_append_dropWhile.symm, fun byte => List.mem_takeWhile_imp,
      head?_dropWhile keep text⟩
  · rintro ⟨rfl, kept, ended⟩
    rw [List.takeWhile_append_of_pos kept, List.dropWhile_append_of_pos kept]
    cases back with
    | nil => simp
    | cons next back =>
        have dropped : keep next = false := by simpa using ended
        simp [dropped]

/-- Where a text is split does not depend on what follows a byte that is not kept. -/
theorem split_append (dropped : ¬∀ byte ∈ front, keep byte = true) (rest : Bytes) :
    (front ++ rest).takeWhile keep = front.takeWhile keep ∧
      (front ++ rest).dropWhile keep = front.dropWhile keep ++ rest := by
  have nonempty : front.dropWhile keep ≠ [] := by
    intro allKept
    exact dropped (List.dropWhile_eq_nil_iff.mp allKept)
  refine split_iff.mpr ⟨?_, fun byte => List.mem_takeWhile_imp, ?_⟩
  · rw [← List.append_assoc, List.takeWhile_append_dropWhile]
  · have ended := head?_dropWhile keep front
    obtain ⟨next, back, split⟩ := List.exists_cons_of_ne_nil nonempty
    rw [split] at ended ⊢
    exact ended

theorem bne_of_notMem {separator : UInt8} (absent : separator ∉ text) :
    ∀ byte ∈ text, (byte != separator) = true := by
  intro byte member
  rw [bne_iff_ne]
  rintro rfl
  exact absent member

theorem split_of_notMem {separator : UInt8} (absent : separator ∉ front) (rest : Bytes) :
    (front ++ separator :: rest).takeWhile (· != separator) = front ∧
      (front ++ separator :: rest).dropWhile (· != separator) = separator :: rest :=
  split_iff.mpr ⟨rfl, bne_of_notMem absent, by simp⟩

theorem takeWhile_of_notMem {separator : UInt8} (absent : separator ∉ text) :
    text.takeWhile (· != separator) = text :=
  List.takeWhile_eq_self_iff.mpr (bne_of_notMem absent)

theorem cutAtNul_append (free : 0 ∉ front) (rest : Bytes) :
    cutAtNul (front ++ rest) = front ++ cutAtNul rest :=
  List.takeWhile_append_of_pos (bne_of_notMem free)

theorem all_isName_of_isVariableName {name : Bytes} (valid : isVariableName name = true) :
    ∀ byte ∈ name, Byte.isName byte = true := by
  cases name with
  | nil => simp
  | cons first rest =>
      simp only [isVariableName, Bool.and_eq_true, List.all_eq_true] at valid
      simpa [Byte.isName_of_isNameStart valid.1] using valid.2

theorem notMem_of_isVariableName {name : Bytes} {byte : UInt8} (valid : isVariableName name = true)
    (other : Byte.isName byte = false) : byte ∉ name := by
  intro member
  rw [all_isName_of_isVariableName valid byte member] at other
  cases other

theorem takeWhile_isName_append {name rest : Bytes} (valid : isVariableName name = true)
    (ended : (rest.head?.all fun next => !Byte.isName next) = true) :
    (name ++ rest).takeWhile Byte.isName = name ∧ (name ++ rest).dropWhile Byte.isName = rest :=
  split_iff.mpr ⟨rfl, all_isName_of_isVariableName valid, ended⟩

theorem isName_eq_false_of_isSpace {byte : UInt8} (space : Byte.isSpace byte = true) :
    Byte.isName byte = false := by
  simp only [Byte.isSpace, Byte.isName, Byte.isLetter, Byte.isUpper, Byte.isDigit,
    Byte.underscore] at *
  grind

theorem not_isBlank_of_isName {byte : UInt8} (name : Byte.isName byte = true) :
    (!Byte.isBlank byte) = true := by
  cases blank : Byte.isBlank byte with
  | false => rfl
  | true => simp [isName_eq_false_of_isSpace (Byte.isSpace_of_isBlank blank)] at name

theorem trimLeft_cons (byte : UInt8) (rest : Bytes) :
    trimLeft (byte :: rest) = if Byte.isSpace byte then trimLeft rest else byte :: rest :=
  List.dropWhile_cons

theorem trimRight_append (text : Bytes) :
    ∃ spaces, trimRight text ++ spaces = text ∧ ∀ byte ∈ spaces, Byte.isSpace byte = true := by
  refine ⟨(text.reverse.takeWhile Byte.isSpace).reverse, ?_, ?_⟩
  · rw [trimRight, ← List.reverse_append, List.takeWhile_append_dropWhile, List.reverse_reverse]
  · intro byte member
    exact List.mem_takeWhile_imp (List.mem_reverse.mp member)

theorem trimLeft_append_of_isSpace {spaces : Bytes}
    (space : ∀ byte ∈ spaces, Byte.isSpace byte = true) (text : Bytes) :
    trimLeft (spaces ++ text) = trimLeft text :=
  List.dropWhile_append_of_pos space

theorem trimLeft_append_of_not_isSpace {byte : UInt8} (visible : Byte.isSpace byte = false)
    (text rest : Bytes) : trimLeft (text ++ byte :: rest) = trimLeft text ++ byte :: rest := by
  rw [trimLeft, List.dropWhile_append, trimLeft]
  split
  · next allSpace =>
      rw [List.isEmpty_iff.mp allSpace, List.dropWhile_cons_of_neg (by simp [visible])]
      rfl
  · rfl

theorem trimRight_append_of_isSpace {spaces : Bytes}
    (space : ∀ byte ∈ spaces, Byte.isSpace byte = true) (text : Bytes) :
    trimRight (text ++ spaces) = trimRight text := by
  have reversed : ∀ byte ∈ spaces.reverse, Byte.isSpace byte = true := by
    intro byte member
    exact space byte (List.mem_reverse.mp member)
  rw [trimRight, List.reverse_append, List.dropWhile_append_of_pos reversed, trimRight]

theorem trim_append_of_isSpace {before after : Bytes}
    (spaceBefore : ∀ byte ∈ before, Byte.isSpace byte = true)
    (spaceAfter : ∀ byte ∈ after, Byte.isSpace byte = true) (text : Bytes) :
    trim (before ++ text ++ after) = trim text := by
  rw [trim, List.append_assoc, trimLeft_append_of_isSpace spaceBefore, trim, trimLeft,
    List.dropWhile_append]
  split
  · next allSpace =>
      have noneLeft : trimLeft text = [] := List.isEmpty_iff.mp allSpace
      rw [noneLeft, List.dropWhile_eq_nil_iff.mpr spaceAfter]
  · exact trimRight_append_of_isSpace spaceAfter _

theorem mem_of_mem_trim {byte : UInt8} {text : Bytes} (member : byte ∈ trim text) :
    byte ∈ text := by
  rw [trim, trimRight, List.mem_reverse] at member
  have inLeft := List.mem_reverse.mp ((List.dropWhile_sublist _).subset member)
  exact (List.dropWhile_sublist _).subset inLeft

theorem head?_trim (text : Bytes) :
    ((trim text).head?.all fun byte => !Byte.isSpace byte) = true := by
  have left : ((trimLeft text).head?.all fun byte => !Byte.isSpace byte) = true :=
    head?_dropWhile Byte.isSpace text
  obtain ⟨spaces, split, _⟩ := trimRight_append (trimLeft text)
  rw [← split] at left
  rw [trim]
  cases kept : trimRight (trimLeft text) with
  | nil => rfl
  | cons byte rest => simpa [kept] using left

theorem getLast?_trimRight (text : Bytes) :
    ((trimRight text).getLast?.all fun byte => !Byte.isSpace byte) = true := by
  rw [trimRight, List.getLast?_reverse]
  exact head?_dropWhile Byte.isSpace text.reverse

theorem trim_eq_self {text : Bytes} (start : (text.head?.all fun byte => !Byte.isSpace byte) = true)
    (ended : (text.getLast?.all fun byte => !Byte.isSpace byte) = true) : trim text = text := by
  have left : trimLeft text = text := by
    cases text with
    | nil => rfl
    | cons byte rest =>
        have kept : Byte.isSpace byte = false := by simpa using start
        simp [trimLeft_cons, kept]
  have right : trimRight text = text := by
    cases text using List.reverseRecOn with
    | nil => rfl
    | append_singleton front byte =>
        have kept : Byte.isSpace byte = false := by simpa using ended
        simp [trimRight, kept]
  rw [trim, left, right]

theorem splitOn_eq_cons (separator : UInt8) (text : Bytes) :
    ∃ others, splitOn separator text = text.takeWhile (· != separator) :: others := by
  induction text with
  | nil => exact ⟨[], rfl⟩
  | cons byte rest ih =>
      rw [splitOn]
      split
      · next same => exact ⟨splitOn separator rest, by simp [same]⟩
      · next differ =>
          obtain ⟨others, pieces⟩ := ih
          exact ⟨others, by simp [pieces, differ]⟩

theorem exists_of_mem_splitOn {separator : UInt8} {text piece : Bytes}
    (member : piece ∈ splitOn separator text) :
    ∃ before after, text = before ++ piece ++ after ∧
      (after.head?.all (· == separator)) = true := by
  induction text generalizing piece with
  | nil =>
      obtain rfl : piece = [] := by simpa using member
      exact ⟨[], [], rfl, rfl⟩
  | cons byte rest ih =>
      obtain ⟨others, pieces⟩ := splitOn_eq_cons separator (byte :: rest)
      rw [pieces, List.mem_cons] at member
      rcases member with rfl | member
      · refine ⟨[], (byte :: rest).dropWhile (· != separator), ?_, ?_⟩
        · rw [List.nil_append, List.takeWhile_append_dropWhile]
        · simpa only [bne, Bool.not_not] using head?_dropWhile (· != separator) (byte :: rest)
      · have later : piece ∈ splitOn separator rest := by
          rw [splitOn] at pieces
          split at pieces
          · obtain ⟨_, rfl⟩ := List.cons.inj pieces
            exact member
          · obtain ⟨first, remaining, restPieces⟩ :=
              List.exists_cons_of_ne_nil (splitOn_ne_nil separator rest)
            rw [restPieces, List.modifyHead_cons] at pieces
            obtain ⟨_, rfl⟩ := List.cons.inj pieces
            rw [restPieces]
            exact List.mem_cons_of_mem first member
        obtain ⟨before, after, rfl, ended⟩ := ih later
        exact ⟨byte :: before, after, rfl, ended⟩

theorem notMem_of_mem_splitOn {separator : UInt8} {text piece : Bytes}
    (member : piece ∈ splitOn separator text) : separator ∉ piece := by
  induction text generalizing piece with
  | nil =>
      obtain rfl : piece = [] := by simpa using member
      simp
  | cons byte rest ih =>
      rw [splitOn] at member
      split at member
      · rcases List.mem_cons.mp member with rfl | later
        · simp
        · exact ih later
      · next differ =>
          obtain ⟨first, others, pieces⟩ :=
            List.exists_cons_of_ne_nil (splitOn_ne_nil separator rest)
          rw [pieces] at member ih
          rcases List.mem_cons.mp member with rfl | later
          · have free := ih List.mem_cons_self
            simp [Ne.symm differ, free]
          · exact ih (List.mem_cons_of_mem first later)

theorem splitOn_eq (separator : UInt8) (text : Bytes) :
    splitOn separator text = List.splitOn separator text := by
  induction text with
  | nil => rfl
  | cons byte rest ih =>
      rw [splitOn, ih, List.splitOn_eq_splitOnP, List.splitOn_eq_splitOnP,
        List.splitOnP_cons_eq_if_modifyHead]
      simp only [beq_iff_eq]

theorem splitOn_join {separator : UInt8} {pieces : List Bytes}
    (free : ∀ piece ∈ pieces, separator ∉ piece) (nonempty : pieces ≠ []) :
    splitOn separator (join separator pieces) = pieces := by
  rw [splitOn_eq]
  exact List.splitOn_intercalate separator free nonempty

theorem join_splitOn (separator : UInt8) (text : Bytes) :
    join separator (splitOn separator text) = text := by
  rw [splitOn_eq]
  exact List.intercalate_splitOn separator

theorem splitOn_of_notMem {separator : UInt8} {text : Bytes} (free : separator ∉ text) :
    splitOn separator text = [text] := by
  rw [splitOn_eq, List.splitOn_eq_singleton free]

theorem ofInt_eq (number : Int) : ofInt number = ascii (toString number) := by
  cases number with
  | ofNat number =>
      show _ = ascii (Nat.repr number)
      rw [Nat.repr_eq_ofList_toDigits, ascii, String.toList_ofList]
      rfl
  | negSucc number =>
      show _ = ascii ("-" ++ Nat.repr (number + 1))
      rw [Nat.repr_eq_ofList_toDigits, ascii, String.toList_append, String.toList_ofList,
        String.toList_ofList]
      rfl

theorem zero_notMem_ofNat (number : Nat) : 0 ∉ ofNat number := by
  intro member
  obtain ⟨digit, isDigit, zero⟩ := List.mem_map.mp member
  have range := Nat.isDigit_of_mem_toDigits (by decide) (by decide) isDigit
  have bounds : 48 ≤ digit.toNat ∧ digit.toNat ≤ 57 := by
    simpa [Char.isDigit, UInt32.le_iff_toNat_le] using range
  have value : digit.toNat % 256 = 0 := by simpa using congrArg UInt8.toNat zero
  omega

theorem zero_notMem_ofInt (number : Int) : 0 ∉ ofInt number := by
  cases number with
  | ofNat number => exact zero_notMem_ofNat number
  | negSucc number =>
      rw [ofInt, List.mem_cons, not_or]
      exact ⟨by decide, zero_notMem_ofNat (number + 1)⟩

end TradeLocal.Bytes
