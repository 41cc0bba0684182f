import Mathlib.Algebra.Ring.Int.Defs
import Mathlib.Algebra.Ring.Nat
import Mathlib.Data.List.Basic
import Mathlib.Data.Rat.Defs

/-!
# Formatted output

The formats of the `printf` family over bytes.  `parse` cuts a format into its
pieces, and `sprintf` prints them from a list of arguments.  `none` stands for
what the standard leaves undefined: a directive that is not one, or no argument
of the type that it reads.  How a floating-point number is printed is a
parameter.
-/

namespace RevSDK.Foundation.Printf

def byte (char : Char) : UInt8 := UInt8.ofNat char.toNat

def bytesOf (text : String) : List UInt8 := text.toList.map byte

def percentSign : UInt8 := byte '%'

/-! ## Formats -/

inductive Amount where
  | none
  | number (value : Nat)
  | argument
  deriving DecidableEq

def Amount.digit (amount : Amount) (digit : Nat) : Amount :=
  match amount with
  | .number value => .number (10 * value + digit)
  | _ => .number digit

structure Directive where
  flags : List UInt8 := []
  width : Amount := .none
  precision : Amount := .none
  size : List UInt8 := []
  conversion : UInt8 := 0
  deriving DecidableEq

inductive Kind where
  | int
  | double
  | text
  | pointer
  deriving DecidableEq

inductive Piece where
  | literal (byte : UInt8)
  | percent
  | directive (directive : Directive) (kind : Kind)
  deriving DecidableEq

inductive Stage where
  | text
  | flags
  | width
  | precision
  | size
  deriving DecidableEq

inductive Progress where
  | more (stage : Stage) (directive : Directive)
  | done (piece : Piece)
  | bad

def digitOf (next : UInt8) : Option Nat :=
  if byte '0' ≤ next ∧ next ≤ byte '9' then
    some (next.toNat - (byte '0').toNat)
  else none

def integerSizes : List (List UInt8) :=
  ["", "hh", "h", "l", "ll", "q", "j", "z", "t"].map bytesOf

/--
The type that a conversion reads.  Wide characters, `long double` and `%n` are
left out, since no call passes what they read.
-/
def kindOf (size : List UInt8) (conversion : UInt8) : Option Kind :=
  if (bytesOf "diouxX").contains conversion ∧ size ∈ integerSizes then
    some .int
  else if (bytesOf "fFeEgGaA").contains conversion ∧
      (size = [] ∨ size = bytesOf "l") then some .double
  else if size = [] then
    if conversion == byte 'c' then some .int
    else if conversion == byte 's' then some .text
    else if conversion == byte 'p' then some .pointer
    else none
  else none

def finish (directive : Directive) (next : UInt8) : Progress :=
  if (bytesOf "hlqjzt").contains next then
    .more .size { directive with size := directive.size ++ [next] }
  else if next == percentSign && directive == {} then .done .percent
  else match kindOf directive.size next with
    | some kind => .done (.directive { directive with conversion := next } kind)
    | none => .bad

def extendWidth (directive : Directive) (next : UInt8) : Progress :=
  match digitOf next with
  | some digit => .more .width
      { directive with width := directive.width.digit digit }
  | none =>
      if next == byte '.' then
        .more .precision { directive with precision := .number 0 }
      else finish directive next

def extendPrecision (directive : Directive) (next : UInt8) : Progress :=
  match digitOf next with
  | some digit => .more .precision
      { directive with precision := directive.precision.digit digit }
  | none =>
      if next == byte '*' then
        .more .size { directive with precision := .argument }
      else finish directive next

def extend (directive : Directive) (next : UInt8) : Stage → Progress
  | .text => .bad
  | .flags =>
      if (bytesOf "-+ #0").contains next then
        .more .flags { directive with flags := directive.flags ++ [next] }
      else if next == byte '*' then
        .more .width { directive with width := .argument }
      else extendWidth directive next
  | .width => extendWidth directive next
  | .precision => extendPrecision directive next
  | .size => finish directive next

def parse : Stage → Directive → List UInt8 → Option (List Piece)
  | .text, _, [] => some []
  | _, _, [] => none
  | .text, directive, next :: rest =>
      if next == percentSign then parse .flags {} rest
      else (parse .text directive rest).map (.literal next :: ·)
  | stage, directive, next :: rest =>
      match extend directive next stage with
      | .more stage directive => parse stage directive rest
      | .done piece => (parse .text {} rest).map (piece :: ·)
      | .bad => none

/-! ## Fields -/

inductive Argument where
  | int (value : Int)
  | double (value : ℚ)
  | text (bytes : List UInt8)
  | pointer (address : Nat)
  deriving DecidableEq

def Argument.kind : Argument → Kind
  | .int _ => .int
  | .double _ => .double
  | .text _ => .text
  | .pointer _ => .pointer

structure Field where
  sign : List UInt8 := []
  digits : List UInt8
  zeroPadded : Bool := false

abbrev FloatText := Directive → Option Nat → ℚ → List UInt8 × List UInt8

/-- A C string ends at its first NUL. -/
def cText (bytes : List UInt8) : List UInt8 := bytes.takeWhile (· != 0)

def Directive.has (directive : Directive) (flag : Char) : Bool :=
  directive.flags.contains (byte flag)

/-- The bits of an integer argument, on a 64-bit platform. -/
def Directive.bits (directive : Directive) : Nat :=
  if directive.size = [] then 32
  else if directive.size = bytesOf "h" then 16
  else if directive.size = bytesOf "hh" then 8
  else 64

def digitsIn (base value : Nat) : List UInt8 :=
  (Nat.toDigits base value).map byte

def withPrecision (precision : Option Nat) (value : Nat)
    (digits : List UInt8) : List UInt8 :=
  match precision with
  | none => digits
  | some least =>
      let digits := if value = 0 ∧ least = 0 then [] else digits
      List.replicate (least - digits.length) (byte '0') ++ digits

def Directive.padsZeros (directive : Directive) (precision : Option Nat) :
    Bool :=
  directive.has '0' && precision.isNone

def Directive.signed (directive : Directive) (precision : Option Nat)
    (value : Int) : Field :=
  let value := value.bmod (2 ^ directive.bits)
  { sign :=
      if value < 0 then [byte '-']
      else if directive.has '+' then [byte '+']
      else if directive.has ' ' then [byte ' ']
      else []
    digits := withPrecision precision value.natAbs (digitsIn 10 value.natAbs)
    zeroPadded := directive.padsZeros precision }

def Directive.unsigned (directive : Directive) (precision : Option Nat)
    (base : Nat) (alternate : List UInt8) (value : Int) : Field :=
  let value := (value % 2 ^ directive.bits).toNat
  { sign := if directive.has '#' && value != 0 then alternate else []
    digits := withPrecision precision value (digitsIn base value)
    zeroPadded := directive.padsZeros precision }

def upperCase (digits : List UInt8) : List UInt8 :=
  digits.map fun digit =>
    if byte 'a' ≤ digit ∧ digit ≤ byte 'f' then digit - 32 else digit

def Directive.field (directive : Directive) (floatText : FloatText)
    (precision : Option Nat) : Argument → Field
  | .int value =>
      let conversion := directive.conversion
      if (bytesOf "di").contains conversion then
        directive.signed precision value
      else if conversion == byte 'u' then
        directive.unsigned precision 10 [] value
      else if conversion == byte 'o' then
        directive.unsigned precision 8 [byte '0'] value
      else if conversion == byte 'x' then
        directive.unsigned precision 16 (bytesOf "0x") value
      else if conversion == byte 'X' then
        let field := directive.unsigned precision 16 (bytesOf "0X") value
        { field with digits := upperCase field.digits }
      else { digits := [UInt8.ofNat (value % 256).toNat] }
  | .double value =>
      let (sign, digits) := floatText directive precision value
      { sign := sign, digits := digits, zeroPadded := directive.has '0' }
  | .text bytes =>
      let bytes := cText bytes
      { digits := bytes.take (precision.getD bytes.length) }
  | .pointer address => { sign := bytesOf "0x", digits := digitsIn 16 address }

/-! ## Output -/

def Amount.take : Amount → List Argument → Option (Option Int × List Argument)
  | .none, args => some (.none, args)
  | .number value, args => some (some value, args)
  | .argument, .int value :: args => some (some (value.bmod (2 ^ 32)), args)
  | .argument, _ => .none

inductive Item where
  | byte (byte : UInt8)
  | field (leftAligned : Bool) (width : Nat) (field : Field)

/-- A negative width aligns to the left, a negative precision is none. -/
def Directive.item (directive : Directive) (floatText : FloatText)
    (width precision : Option Int) (argument : Argument) : Item :=
  let width := width.getD 0
  let precision := (precision.filter (0 ≤ ·)).map Int.toNat
  .field (directive.has '-' || width < 0) width.natAbs
    (directive.field floatText precision argument)

def Directive.take (directive : Directive) (kind : Kind)
    (floatText : FloatText) (args : List Argument) :
    Option (Item × List Argument) := do
  let (width, args) ← directive.width.take args
  let (precision, args) ← directive.precision.take args
  match args with
  | argument :: args =>
      if argument.kind = kind then
        some (directive.item floatText width precision argument, args)
      else none
  | [] => none

/-- Arguments that no directive takes are ignored. -/
def items (floatText : FloatText) :
    List Piece → List Argument → Option (List Item)
  | [], _ => some []
  | .literal byte :: pieces, args =>
      (items floatText pieces args).map (.byte byte :: ·)
  | .percent :: pieces, args =>
      (items floatText pieces args).map (.byte percentSign :: ·)
  | .directive directive kind :: pieces, args =>
      match directive.take kind floatText args with
      | some (item, args) => (items floatText pieces args).map (item :: ·)
      | none => none

def Item.text : Item → List UInt8
  | .byte value => [value]
  | .field leftAligned width ⟨sign, digits, zeroPadded⟩ =>
      let padding := width - (sign.length + digits.length)
      if leftAligned then
        sign ++ digits ++ List.replicate padding (Printf.byte ' ')
      else if zeroPadded then
        sign ++ List.replicate padding (Printf.byte '0') ++ digits
      else List.replicate padding (Printf.byte ' ') ++ sign ++ digits

def printed (floatText : FloatText) (format : List UInt8)
    (args : List Argument) : Option (List Item) :=
  (parse .text {} format).bind (items floatText · args)

def sprintf (floatText : FloatText) (format : List UInt8)
    (args : List Argument) : Option (List UInt8) :=
  (printed floatText format args).map (·.flatMap Item.text)

/-! ## The arguments and the room that a format needs -/

def Amount.needs : Amount → List Kind
  | .argument => [.int]
  | _ => []

def Piece.needs : Piece → List Kind
  | .directive read kind =>
      read.width.needs ++ read.precision.needs ++ [kind]
  | _ => []

/-- The format is well formed, and each directive finds what it reads. -/
def Supplied (format : List UInt8) (args : List Argument) : Prop :=
  ∃ pieces, parse .text {} format = some pieces ∧
    pieces.flatMap Piece.needs <+: args.map Argument.kind

def Item.length : Item → Nat
  | .byte _ => 1
  | .field _ width content =>
      max width (content.sign.length + content.digits.length)

@[simp] theorem Item.length_byte (value : UInt8) :
    (Item.byte value).length = 1 := rfl

/-- The literal text and the fields, each at least as long as its width. -/
def printedLength (floatText : FloatText) (format : List UInt8)
    (args : List Argument) : Nat :=
  (((printed floatText format args).getD []).map Item.length).sum

/-! ## Supplied formats print -/

theorem length_text (item : Item) : item.text.length = item.length := by
  match item with
  | .byte _ => rfl
  | .field leftAligned width ⟨sign, digits, zeroPadded⟩ =>
      cases leftAligned <;> cases zeroPadded <;>
        simp [Item.text, Item.length] <;> omega

theorem length_sprintf (floatText : FloatText) (format : List UInt8)
    (args : List Argument) (out : List UInt8)
    (hprints : sprintf floatText format args = some out) :
    out.length = printedLength floatText format args := by
  obtain ⟨found, items, rfl⟩ := Option.map_eq_some_iff.mp hprints
  rw [printedLength, items, Option.getD_some, List.length_flatMap]
  simp only [length_text]

theorem Amount.kinds_of_take (amount : Amount) (args rest : List Argument)
    (value : Option Int) (htaken : amount.take args = some (value, rest)) :
    args.map Argument.kind = amount.needs ++ rest.map Argument.kind := by
  match amount, args with
  | .none, args | .number _, args =>
      obtain ⟨-, rfl⟩ : _ ∧ args = rest := by simpa [take] using htaken
      rfl
  | .argument, .int _ :: args =>
      obtain ⟨-, rfl⟩ : _ ∧ args = rest := by simpa [take] using htaken
      rfl
  | .argument, [] | .argument, .double _ :: _ | .argument, .text _ :: _
  | .argument, .pointer _ :: _ => cases htaken

theorem Amount.take_of_kinds (amount : Amount) (args : List Argument)
    (kinds : List Kind)
    (hsupplied : args.map Argument.kind = amount.needs ++ kinds) :
    ∃ value rest, amount.take args = some (value, rest) ∧
      rest.map Argument.kind = kinds := by
  match amount, args with
  | .none, args | .number _, args => exact ⟨_, args, rfl, hsupplied⟩
  | .argument, .int _ :: args =>
      exact ⟨_, args, rfl, List.tail_eq_of_cons_eq hsupplied⟩
  | .argument, [] | .argument, .double _ :: _ | .argument, .text _ :: _
  | .argument, .pointer _ :: _ => simp [needs, Argument.kind] at hsupplied

theorem Directive.kinds_of_take (directive : Directive) (kind : Kind)
    (floatText : FloatText) (args rest : List Argument) (item : Item)
    (htaken : directive.take kind floatText args = some (item, rest)) :
    args.map Argument.kind =
      (Piece.directive directive kind).needs ++ rest.map Argument.kind := by
  obtain ⟨⟨width, afterWidth⟩, hwidthTaken, htaken⟩ :=
    Option.bind_eq_some_iff.mp htaken
  obtain ⟨⟨precision, afterPrecision⟩, hprecisionTaken, htaken⟩ :=
    Option.bind_eq_some_iff.mp htaken
  rw [directive.width.kinds_of_take _ _ _ hwidthTaken,
    directive.precision.kinds_of_take _ _ _ hprecisionTaken]
  cases afterPrecision with
  | nil => cases htaken
  | cons argument after =>
      obtain ⟨rfl, -, rfl⟩ : argument.kind = kind ∧ _ ∧ after = rest := by
        simpa using htaken
      simp [Piece.needs]

theorem Directive.take_of_kinds (directive : Directive) (kind : Kind)
    (floatText : FloatText) (args : List Argument) (kinds : List Kind)
    (hsupplied : args.map Argument.kind =
      (Piece.directive directive kind).needs ++ kinds) :
    ∃ item rest, directive.take kind floatText args = some (item, rest) ∧
      rest.map Argument.kind = kinds := by
  simp only [Piece.needs, List.append_assoc] at hsupplied
  obtain ⟨width, afterWidth, hwidthTaken, hsupplied⟩ :=
    directive.width.take_of_kinds args _ hsupplied
  obtain ⟨precision, afterPrecision, hprecisionTaken, hsupplied⟩ :=
    directive.precision.take_of_kinds afterWidth _ hsupplied
  cases afterPrecision with
  | nil => cases hsupplied
  | cons argument rest =>
      obtain ⟨hkind, hkindsLeft⟩ := List.cons_eq_cons.mp hsupplied
      refine ⟨directive.item floatText width precision argument, rest, ?_,
        hkindsLeft⟩
      simp [take, hwidthTaken, hprecisionTaken, hkind]

theorem items_iff (floatText : FloatText) (pieces : List Piece)
    (args : List Argument) :
    (∃ found, items floatText pieces args = some found) ↔
      pieces.flatMap Piece.needs <+: args.map Argument.kind := by
  induction pieces generalizing args with
  | nil => exact iff_of_true ⟨[], rfl⟩ List.nil_prefix
  | cons piece pieces ih =>
      cases piece with
      | literal _ | percent =>
          simpa [items, Piece.needs] using ih args
      | directive directive kind =>
          rw [items, List.flatMap_cons]
          constructor
          · rintro ⟨found, hprints⟩
            split at hprints
            next item rest htaken =>
              obtain ⟨later, hprintsLater, -⟩ :=
                Option.map_eq_some_iff.mp hprints
              rw [directive.kinds_of_take kind floatText args rest item htaken,
                List.prefix_append_right_inj]
              exact (ih rest).mp ⟨later, hprintsLater⟩
            next => cases hprints
          · rintro ⟨kinds, hsupplied⟩
            rw [List.append_assoc] at hsupplied
            obtain ⟨item, rest, htaken, hkindsLeft⟩ :=
              directive.take_of_kinds kind floatText args _ hsupplied.symm
            obtain ⟨later, hprints⟩ := (ih rest).mpr ⟨kinds, hkindsLeft.symm⟩
            exact ⟨item :: later, by simp [htaken, hprints]⟩

theorem supplied_iff (floatText : FloatText) (format : List UInt8)
    (args : List Argument) :
    Supplied format args ↔ ∃ out, sprintf floatText format args = some out := by
  unfold Supplied sprintf printed
  simp only [← items_iff floatText, Option.map_eq_some_iff,
    Option.bind_eq_some_iff]
  constructor
  · rintro ⟨pieces, hparsed, found, hprints⟩
    exact ⟨_, found, ⟨pieces, hparsed, hprints⟩, rfl⟩
  · rintro ⟨-, found, ⟨pieces, hparsed, hprints⟩, -⟩
    exact ⟨pieces, hparsed, found, hprints⟩

/-! ## Texts as formats -/

theorem parse_plain (directive : Directive) (text : List UInt8)
    (hplain : percentSign ∉ text) :
    parse .text directive text = some (text.map .literal) := by
  induction text with
  | nil => rfl
  | cons next text ih =>
      obtain ⟨hisPlain, hplain⟩ := not_or.mp (List.mem_cons.not.mp hplain)
      have hdiffers : (next == percentSign) = false :=
        beq_false_of_ne (Ne.symm hisPlain)
      simp [parse, hdiffers, ih hplain]

theorem items_literals (floatText : FloatText) (text : List UInt8)
    (args : List Argument) :
    items floatText (text.map .literal) args = some (text.map .byte) := by
  induction text with
  | nil => rfl
  | cons next text ih => simp [items, ih]

theorem printed_plain (floatText : FloatText) (text : List UInt8)
    (args : List Argument) (hplain : percentSign ∉ text) :
    printed floatText text args = some (text.map .byte) := by
  rw [printed, parse_plain {} text hplain, Option.bind_some, items_literals]

theorem sprintf_plain (floatText : FloatText) (text : List UInt8)
    (args : List Argument) (hplain : percentSign ∉ text) :
    sprintf floatText text args = some text := by
  rw [sprintf, printed_plain floatText text args hplain, Option.map_some,
    List.flatMap_map]
  exact congrArg some (List.flatMap_singleton' text)

theorem parse_inside (stage : Stage) (directive : Directive) (next : UInt8)
    (rest : List UInt8) (hinside : stage ≠ .text) :
    parse stage directive (next :: rest) =
      match extend directive next stage with
      | .more stage directive => parse stage directive rest
      | .done piece => (parse .text {} rest).map (piece :: ·)
      | .bad => none := by
  cases stage with
  | text => exact absurd rfl hinside
  | flags | width | precision | size => rfl

theorem length_pieces_le (stage : Stage) (directive : Directive)
    (format : List UInt8) (pieces : List Piece)
    (hparsed : parse stage directive format = some pieces) :
    pieces.length ≤ format.length := by
  induction format generalizing stage directive pieces with
  | nil =>
      cases stage with
      | text =>
          cases hparsed
          exact Nat.le_refl 0
      | flags | width | precision | size => cases hparsed
  | cons next format ih =>
      have later (piece : Piece) (directive : Directive)
          (continued : (parse .text directive format).map (piece :: ·) =
            some pieces) : pieces.length ≤ (next :: format).length := by
        obtain ⟨tail, htailParsed, rfl⟩ := Option.map_eq_some_iff.mp continued
        exact Nat.succ_le_succ (ih .text directive tail htailParsed)
      by_cases hinText : stage = .text
      · subst hinText
        rw [parse] at hparsed
        split at hparsed
        · exact Nat.le_succ_of_le (ih .flags {} pieces hparsed)
        · exact later (.literal next) directive hparsed
      · rw [parse_inside stage directive next format hinText] at hparsed
        split at hparsed
        next stage directive _ =>
          exact Nat.le_succ_of_le (ih stage directive pieces hparsed)
        next piece _ => exact later piece {} hparsed
        next => cases hparsed

theorem length_pieces_lt (directive : Directive) (format : List UInt8)
    (pieces : List Piece) (hformatted : percentSign ∈ format)
    (hparsed : parse .text directive format = some pieces) :
    pieces.length < format.length := by
  induction format generalizing pieces with
  | nil => cases hformatted
  | cons next format ih =>
      rw [parse] at hparsed
      split at hparsed
      next =>
        exact Nat.lt_succ_of_le
          (length_pieces_le .flags {} format pieces hparsed)
      next hdiffers =>
        obtain ⟨tail, htailParsed, rfl⟩ := Option.map_eq_some_iff.mp hparsed
        have hformatted : percentSign ∈ format := by
          obtain rfl | later := List.mem_cons.mp hformatted
          · exact absurd (beq_self_eq_true percentSign) hdiffers
          · exact later
        exact Nat.succ_lt_succ (ih tail hformatted htailParsed)

theorem take_nil (directive : Directive) (kind : Kind)
    (floatText : FloatText) : directive.take kind floatText [] = none := by
  match htaken : directive.take kind floatText [] with
  | none => rfl
  | some (item, rest) =>
      have kinds := directive.kinds_of_take kind floatText [] rest item htaken
      simp [Piece.needs] at kinds

theorem length_items_nil (floatText : FloatText) (pieces : List Piece)
    (found : List Item) (hprints : items floatText pieces [] = some found) :
    (found.flatMap Item.text).length = pieces.length := by
  induction pieces generalizing found with
  | nil =>
      cases hprints
      rfl
  | cons piece pieces ih =>
      cases piece with
      | literal _ | percent =>
          obtain ⟨later, hlaterPrints, rfl⟩ := Option.map_eq_some_iff.mp hprints
          rw [List.flatMap_cons, List.length_append, ih later hlaterPrints]
          exact Nat.add_comm 1 pieces.length
      | directive directive kind =>
          rw [items, take_nil] at hprints
          cases hprints

theorem length_sprintf_lt (floatText : FloatText) (text out : List UInt8)
    (hformatted : percentSign ∈ text)
    (hprints : sprintf floatText text [] = some out) :
    out.length < text.length := by
  obtain ⟨found, hprinted, rfl⟩ := Option.map_eq_some_iff.mp hprints
  obtain ⟨pieces, hparsed, hprints⟩ := Option.bind_eq_some_iff.mp hprinted
  rw [length_items_nil floatText pieces found hprints]
  exact length_pieces_lt {} text pieces hformatted hparsed

theorem printedLength_plain (floatText : FloatText) (text : List UInt8)
    (args : List Argument) (hplain : percentSign ∉ text) :
    printedLength floatText text args = text.length :=
  (length_sprintf floatText text args text
    (sprintf_plain floatText text args hplain)).symm

end RevSDK.Foundation.Printf
