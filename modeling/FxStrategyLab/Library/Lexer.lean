import FxStrategyLab.Library.Decide

/-!
# JSON tokens

The writing of JSON tokens and a lexer for them, as a machine that reads one character
after the other.  Numbers and literals are words: maximal runs of word characters.  The
texts of floats are a parameter that reads back what it wrote.

**Results.** `lexFrom_render` reads written tokens back, `lexFrom_open` rejects a text that
ends inside a string, and `mem_render_iff` locates the characters beyond ASCII of a written
text in its strings.
-/

namespace FxStrategyLab.Library
namespace Json

def isWordChar (c : Char) : Bool :=
  c.isAlphanum || c == '+' || c == '-' || c == '.'

structure FloatText where
  repr : ℚ → List Char
  read : List Char → Option ℚ
  read_repr : ∀ q, read (repr q) = some q
  repr_word : ∀ q, ∀ c ∈ repr q, isWordChar c = true ∧ c.toNat < 127
  repr_point : ∀ q, '.' ∈ repr q ∨ 'e' ∈ repr q
  repr_head : ∀ q, ∃ c rest, repr q = c :: rest ∧ (c.isDigit = true ∨ c = '-')

/-- The integer that a word writes, without leading zeros. -/
def readNatural (word : List Char) : Option Nat :=
  let n := Nat.ofDigitChars 10 word 0
  if Nat.toDigits 10 n = word then some n else none

def readInteger : List Char → Option Int
  | '-' :: digits => (readNatural digits).map fun n : Nat => -(n : Int)
  | word => (readNatural word).map Int.ofNat

def integerWord : Int → List Char
  | .ofNat n => Nat.toDigits 10 n
  | .negSucc n => '-' :: Nat.toDigits 10 (n + 1)

def hexDigit (n : Nat) : Char :=
  Char.ofNat (if n < 10 then 48 + n else 87 + n)

def hexValue (c : Char) : Option Nat :=
  let n := c.toNat
  if 48 ≤ n ∧ n ≤ 57 then some (n - 48)
  else if 97 ≤ n ∧ n ≤ 102 then some (n - 87)
  else if 65 ≤ n ∧ n ≤ 70 then some (n - 55)
  else none

/-- The writing of a character inside a string; characters beyond ASCII stay. -/
def escapeChar (c : Char) : List Char :=
  if c = '"' then ['\\', '"']
  else if c = '\\' then ['\\', '\\']
  else if c = '\n' then ['\\', 'n']
  else if c = '\r' then ['\\', 'r']
  else if c = '\t' then ['\\', 't']
  else if c = Char.ofNat 8 then ['\\', 'b']
  else if c = Char.ofNat 12 then ['\\', 'f']
  else if c.toNat < 32 then
    ['\\', 'u', '0', '0', hexDigit (c.toNat / 16), hexDigit (c.toNat % 16)]
  else [c]

def escape (chars : List Char) : List Char :=
  chars.flatMap escapeChar

/-- The character that a one-letter escape stands for. -/
def unescapeChar (c : Char) : Option Char :=
  if c = '"' ∨ c = '\\' ∨ c = '/' then some c
  else if c = 'n' then some '\n'
  else if c = 'r' then some '\r'
  else if c = 't' then some '\t'
  else if c = 'b' then some (Char.ofNat 8)
  else if c = 'f' then some (Char.ofNat 12)
  else none

/-- The tokens of a JSON text. -/
inductive Token
  | openObject
  | closeObject
  | openArray
  | closeArray
  | colon
  | comma
  | null
  | boolean (b : Bool)
  | nan
  | integer (n : Int)
  | float (q : ℚ)
  | text (s : String)
deriving DecidableEq

namespace Token

/-- The character of a punctuation token. -/
def mark : Token → Option Char
  | openObject => some '\x7b'
  | closeObject => some '\x7d'
  | openArray => some '['
  | closeArray => some ']'
  | colon => some ':'
  | comma => some ','
  | _ => none

def word (floats : FloatText) : Token → Option (List Char)
  | null => some ['n', 'u', 'l', 'l']
  | boolean true => some ['t', 'r', 'u', 'e']
  | boolean false => some ['f', 'a', 'l', 's', 'e']
  | nan => some ['N', 'a', 'N']
  | integer n => some (integerWord n)
  | float q => some (floats.repr q)
  | _ => none

/-- The text of a token. -/
def render (floats : FloatText) (t : Token) : List Char :=
  match t with
  | text s => '"' :: (escape s.toList ++ ['"'])
  | t => (t.mark.map fun c => [c]).getD ((t.word floats).getD [])

end Token

def render (floats : FloatText) (tokens : List Token) : List Char :=
  tokens.flatMap (Token.render floats)

def punctuation (c : Char) : Option Token :=
  if c = '\x7b' then some .openObject
  else if c = '\x7d' then some .closeObject
  else if c = '[' then some .openArray
  else if c = ']' then some .closeArray
  else if c = ':' then some .colon
  else if c = ',' then some .comma
  else none

def readWord (floats : FloatText) (word : List Char) : Option Token :=
  if word = ['n', 'u', 'l', 'l'] then some .null
  else if word = ['t', 'r', 'u', 'e'] then some (.boolean true)
  else if word = ['f', 'a', 'l', 's', 'e'] then some (.boolean false)
  else if word = ['N', 'a', 'N'] ∨ word = "Infinity".toList ∨ word = "-Infinity".toList then
    some .nan
  else
    match readInteger word with
    | some n => some (.integer n)
    | none => (floats.read word).map .float

/-- Where the lexer stands: between tokens, in a word, in a string, behind a backslash or
in a hexadecimal escape, with the characters it has read. -/
inductive LexState
  | between
  | word (chars : List Char)
  | string (chars : List Char)
  | escaped (chars : List Char)
  | unicode (chars : List Char) (digits : List Nat)
deriving DecidableEq

def isBlank (c : Char) : Bool :=
  c == ' ' || c == '\n' || c == '\r' || c == '\t'

/-- A character between tokens. -/
def lexStart (c : Char) : Option (List Token × LexState) :=
  if isBlank c then some ([], .between)
  else if c = '"' then some ([], .string [])
  else if isWordChar c then some ([], .word [c])
  else (punctuation c).map fun t => ([t], .between)

/-- The character of four hexadecimal digits; a surrogate is none. -/
def unicodeChar (digits : List Nat) : Option Char :=
  let code := digits.foldl (fun n d => 16 * n + d) 0
  if code < 0xd800 ∨ 0xe000 ≤ code then some (Char.ofNat code) else none

/-- One character: the tokens that it ends and the next state. -/
def lexStep (floats : FloatText) (state : LexState) (c : Char) :
    Option (List Token × LexState) :=
  match state with
  | .between => lexStart c
  | .word chars =>
      if isWordChar c then some ([], .word (chars ++ [c]))
      else do
        let token ← readWord floats chars
        let (tokens, next) ← lexStart c
        return (token :: tokens, next)
  | .string chars =>
      if c = '"' then some ([.text (String.ofList chars)], .between)
      else if c = '\\' then some ([], .escaped chars)
      else if c.toNat < 32 then none
      else some ([], .string (chars ++ [c]))
  | .escaped chars =>
      if c = 'u' then some ([], .unicode chars [])
      else (unescapeChar c).map fun plain => ([], .string (chars ++ [plain]))
  | .unicode chars digits => do
      let digit ← hexValue c
      if digits.length < 3 then some ([], .unicode chars (digits ++ [digit]))
      else do
        let plain ← unicodeChar (digits ++ [digit])
        some ([], .string (chars ++ [plain]))

def lexEnd (floats : FloatText) : LexState → Option (List Token)
  | .between => some []
  | .word chars => (readWord floats chars).map fun t => [t]
  | _ => none

/-- The tokens of a text, from a state of the lexer. -/
def lexFrom (floats : FloatText) : LexState → List Char → Option (List Token)
  | state, [] => lexEnd floats state
  | state, c :: rest => do
      let (tokens, next) ← lexStep floats state c
      let later ← lexFrom floats next rest
      return tokens ++ later

section Strings

variable {floats : FloatText}

theorem lexFrom_silent {state next : LexState} {c : Char} {rest : List Char}
    (h : lexStep floats state c = some ([], next)) :
    lexFrom floats state (c :: rest) = lexFrom floats next rest := by
  simp only [lexFrom, h, Option.bind_eq_bind, Option.bind_some, List.nil_append,
    Option.pure_def]
  cases lexFrom floats next rest <;> rfl

theorem hexValue_hexDigit {n : Nat} (h : n < 16) : hexValue (hexDigit n) = some n := by
  have hall : ∀ n < 16, hexValue (hexDigit n) = some n := by decide
  exact hall n h

theorem lexFrom_escapeChar (chars : List Char) (c : Char) (rest : List Char) :
    lexFrom floats (.string chars) (escapeChar c ++ rest) =
      lexFrom floats (.string (chars ++ [c])) rest := by
  unfold escapeChar
  split_ifs with hquote hslash hn hr ht hb hf hcontrol
  · subst hquote
    exact (lexFrom_silent rfl).trans (lexFrom_silent rfl)
  · subst hslash
    exact (lexFrom_silent rfl).trans (lexFrom_silent rfl)
  · subst hn
    exact (lexFrom_silent rfl).trans (lexFrom_silent rfl)
  · subst hr
    exact (lexFrom_silent rfl).trans (lexFrom_silent rfl)
  · subst ht
    exact (lexFrom_silent rfl).trans (lexFrom_silent rfl)
  · subst hb
    exact (lexFrom_silent rfl).trans (lexFrom_silent rfl)
  · subst hf
    exact (lexFrom_silent rfl).trans (lexFrom_silent rfl)
  · have hhigh : hexValue (hexDigit (c.toNat / 16)) = some (c.toNat / 16) :=
      hexValue_hexDigit (by omega)
    have hlow : hexValue (hexDigit (c.toNat % 16)) = some (c.toNat % 16) :=
      hexValue_hexDigit (by omega)
    have hcode : 16 * (16 * (16 * (16 * 0 + 0) + 0) + c.toNat / 16) + c.toNat % 16 =
        c.toNat := by omega
    have hchar : unicodeChar [0, 0, c.toNat / 16, c.toNat % 16] = some c := by
      simp only [unicodeChar, List.foldl_cons, List.foldl_nil, hcode, Char.ofNat_toNat]
      rw [if_pos (Or.inl (by omega))]
    have hthird : lexStep floats (.unicode chars [0, 0]) (hexDigit (c.toNat / 16)) =
        some ([], .unicode chars [0, 0, c.toNat / 16]) := by
      simp [lexStep, hhigh]
    have hlast : lexStep floats (.unicode chars [0, 0, c.toNat / 16])
        (hexDigit (c.toNat % 16)) = some ([], .string (chars ++ [c])) := by
      simp [lexStep, hlow, hchar]
    calc
      lexFrom floats (.string chars) (['\\', 'u', '0', '0', hexDigit (c.toNat / 16),
          hexDigit (c.toNat % 16)] ++ rest)
          = lexFrom floats (.escaped chars) ('u' :: '0' :: '0' :: hexDigit (c.toNat / 16) ::
              hexDigit (c.toNat % 16) :: rest) := lexFrom_silent rfl
      _ = lexFrom floats (.unicode chars []) ('0' :: '0' :: hexDigit (c.toNat / 16) ::
              hexDigit (c.toNat % 16) :: rest) := lexFrom_silent rfl
      _ = lexFrom floats (.unicode chars [0]) ('0' :: hexDigit (c.toNat / 16) ::
              hexDigit (c.toNat % 16) :: rest) := lexFrom_silent rfl
      _ = lexFrom floats (.unicode chars [0, 0]) (hexDigit (c.toNat / 16) ::
              hexDigit (c.toNat % 16) :: rest) := lexFrom_silent rfl
      _ = lexFrom floats (.unicode chars [0, 0, c.toNat / 16])
              (hexDigit (c.toNat % 16) :: rest) := lexFrom_silent hthird
      _ = lexFrom floats (.string (chars ++ [c])) rest := lexFrom_silent hlast
  · refine lexFrom_silent ?_
    simp [lexStep, hquote, hslash, hcontrol]

theorem lexFrom_escape (chars written rest : List Char) :
    lexFrom floats (.string chars) (escape written ++ rest) =
      lexFrom floats (.string (chars ++ written)) rest := by
  induction written generalizing chars with
  | nil => rw [List.append_nil]; rfl
  | cons c written ih =>
      have hsplit : escape (c :: written) ++ rest =
          escapeChar c ++ (escape written ++ rest) := by
        simp [escape]
      rw [hsplit, lexFrom_escapeChar, ih, List.append_assoc, List.singleton_append]

end Strings

section Words

variable {floats : FloatText}

theorem readNatural_toDigits (n : Nat) : readNatural (Nat.toDigits 10 n) = some n := by
  simp [readNatural, Nat.ofDigitChars_ten_toDigits]

variable {word : List Char}

theorem readNatural_eq_some {n : Nat} (h : readNatural word = some n) :
    word = Nat.toDigits 10 n := by
  simp only [readNatural] at h
  split_ifs at h with hword
  rw [← Option.some.inj h]
  exact hword.symm

theorem isDigit_of_mem_toDigits {n : Nat} {c : Char} (h : c ∈ Nat.toDigits 10 n) :
    c.isDigit = true :=
  Nat.isDigit_of_mem_toDigits (by decide) (by decide) h

theorem minus_notMem_toDigits (n : Nat) : '-' ∉ Nat.toDigits 10 n := by
  intro h
  exact absurd (isDigit_of_mem_toDigits h) (by decide)

theorem integerWord_chars {n : Int} {c : Char} (h : c ∈ integerWord n) :
    c.isDigit = true ∨ c = '-' := by
  cases n with
  | ofNat n => exact Or.inl (isDigit_of_mem_toDigits h)
  | negSucc n =>
      rcases List.mem_cons.mp h with h | h
      · exact Or.inr h
      · exact Or.inl (isDigit_of_mem_toDigits h)

theorem readInteger_integerWord (n : Int) : readInteger (integerWord n) = some n := by
  cases n with
  | negSucc n =>
      simp only [integerWord, readInteger, readNatural_toDigits, Option.map_some,
        Option.some.injEq]
      rfl
  | ofNat n =>
      have hminus := minus_notMem_toDigits n
      simp only [integerWord]
      cases hdigits : Nat.toDigits 10 n with
      | nil => exact absurd hdigits Nat.toDigits_ne_nil
      | cons c rest =>
          have hc : c ≠ '-' := by
            rintro rfl
            exact hminus (hdigits ▸ List.mem_cons_self)
          unfold readInteger
          split
          · rename_i h
            cases h
            exact absurd rfl hc
          · rw [← hdigits, readNatural_toDigits]
            rfl

theorem readInteger_chars {n : Int} (h : readInteger word = some n) :
    ∀ c ∈ word, c.isDigit = true ∨ c = '-' := by
  intro c hc
  unfold readInteger at h
  split at h
  · rename_i digits
    obtain ⟨m, hm, -⟩ := Option.map_eq_some_iff.mp h
    rcases List.mem_cons.mp hc with hc | hc
    · exact Or.inr hc
    · rw [readNatural_eq_some hm] at hc
      exact Or.inl (isDigit_of_mem_toDigits hc)
  · obtain ⟨m, hm, -⟩ := Option.map_eq_some_iff.mp h
    rw [readNatural_eq_some hm] at hc
    exact Or.inl (isDigit_of_mem_toDigits hc)

theorem readWord_of_integer {n : Int}
    (hchars : ∀ c ∈ word, c.isDigit = true ∨ c = '-') (hread : readInteger word = some n) :
    readWord floats word = some (.integer n) := by
  have hother : ∀ c ∈ ['u', 'r', 'a', 'N', 'I'], ¬ (c.isDigit = true ∨ c = '-') := by decide
  have hnot {c : Char} (hc : c ∈ ['u', 'r', 'a', 'N', 'I']) {literal : List Char}
      (hmem : c ∈ literal) : word ≠ literal := by
    rintro rfl
    exact hother c hc (hchars c hmem)
  unfold readWord
  rw [if_neg (hnot (c := 'u') (by decide) (by decide)),
    if_neg (hnot (c := 'r') (by decide) (by decide)),
    if_neg (hnot (c := 'a') (by decide) (by decide)), if_neg, hread]
  rintro (h | h | h)
  · exact hnot (c := 'N') (by decide) (by decide) h
  · exact hnot (c := 'I') (by decide) (by decide) h
  · exact hnot (c := 'I') (by decide) (by decide) h

theorem readWord_float (q : ℚ) : readWord floats (floats.repr q) = some (.float q) := by
  obtain ⟨c, rest, hrepr, hhead⟩ := floats.repr_head q
  have hnot {first : Char} {literal : List Char}
      (hfirst : ¬ (first.isDigit = true ∨ first = '-')) :
      floats.repr q ≠ first :: literal := by
    intro heq
    rw [hrepr] at heq
    cases heq
    exact hfirst hhead
  have hinteger : readInteger (floats.repr q) = none := by
    cases hread : readInteger (floats.repr q) with
    | none => rfl
    | some n =>
        rcases floats.repr_point q with hpoint | hpoint
        · exact absurd (readInteger_chars hread _ hpoint) (by decide)
        · exact absurd (readInteger_chars hread _ hpoint) (by decide)
  have hminus : floats.repr q ≠ "-Infinity".toList := by
    intro heq
    have hpoint := floats.repr_point q
    rw [heq] at hpoint
    exact absurd hpoint (by decide)
  unfold readWord
  rw [if_neg (hnot (by decide)), if_neg (hnot (by decide)), if_neg (hnot (by decide)),
    if_neg, hinteger]
  · simp [floats.read_repr]
  · rintro (h | h | h)
    · exact hnot (by decide) h
    · exact hnot (by decide) h
    · exact hminus h

variable {t : Token}

/-- **The word of a token is read back.** -/
theorem readWord_word (h : t.word floats = some word) : readWord floats word = some t := by
  cases t with
  | null =>
      cases h
      rfl
  | boolean b =>
      cases b with
      | false =>
          cases h
          rfl
      | true =>
          cases h
          rfl
  | nan =>
      cases h
      rfl
  | integer n =>
      cases h
      exact readWord_of_integer (fun c => integerWord_chars) (readInteger_integerWord n)
  | float q =>
      cases h
      exact readWord_float q
  | _ => cases h

theorem word_chars (h : t.word floats = some word) : ∀ c ∈ word, isWordChar c = true := by
  intro c hc
  cases t with
  | null =>
      cases h
      revert c
      decide
  | boolean b =>
      cases b with
      | false =>
          cases h
          revert c
          decide
      | true =>
          cases h
          revert c
          decide
  | nan =>
      cases h
      revert c
      decide
  | integer n =>
      cases h
      rcases integerWord_chars hc with hdigit | rfl
      · simp [isWordChar, Char.isAlphanum, hdigit]
      · decide
  | float q =>
      cases h
      exact (floats.repr_word q c hc).1
  | _ => cases h

theorem word_ne_nil (h : t.word floats = some word) : word ≠ [] := by
  rintro rfl
  have hread := readWord_word h
  have hnone : readWord floats [] = (floats.read []).map .float := rfl
  cases t with
  | float q =>
      obtain ⟨c, rest, hrepr, -⟩ := floats.repr_head q
      have hnil : floats.repr q = [] := Option.some.inj h
      rw [hrepr] at hnil
      cases hnil
  | null => cases h
  | boolean b => cases b <;> cases h
  | nan => cases h
  | integer n =>
      cases n with
      | ofNat n => exact Nat.toDigits_ne_nil (Option.some.inj h)
      | negSucc n => cases h
  | _ => cases h

end Words

section Tokens

variable {floats : FloatText}

def Token.IsWord (floats : FloatText) (t : Token) : Prop :=
  (t.word floats).isSome = true

/-- Every number and literal is followed by punctuation. -/
def Closed (floats : FloatText) : List Token → Prop
  | [] => True
  | t :: rest =>
      (t.IsWord floats → ∃ p later c, rest = p :: later ∧ p.mark = some c) ∧ Closed floats rest

variable {t p : Token} {c : Char}

theorem lexStart_mark (h : t.mark = some c) : lexStart c = some ([t], .between) := by
  cases t with
  | null => cases h
  | boolean b => cases h
  | nan => cases h
  | integer n => cases h
  | float q => cases h
  | text s => cases h
  | _ =>
      cases h
      decide

theorem not_isWordChar_mark (h : t.mark = some c) : isWordChar c = false := by
  cases t with
  | null => cases h
  | boolean b => cases h
  | nan => cases h
  | integer n => cases h
  | float q => cases h
  | text s => cases h
  | _ =>
      cases h
      decide

variable {rest word : List Char}

theorem lexFrom_emit {state next : LexState}
    {tokens : List Token} (h : lexStep floats state c = some (tokens, next)) :
    lexFrom floats state (c :: rest) =
      (lexFrom floats next rest).map fun later => tokens ++ later := by
  simp only [lexFrom, h, Option.bind_eq_bind, Option.bind_some, Option.pure_def]
  cases lexFrom floats next rest <;> rfl

theorem lexFrom_word (chars word rest : List Char) (h : ∀ c ∈ word, isWordChar c = true) :
    lexFrom floats (.word chars) (word ++ rest) =
      lexFrom floats (.word (chars ++ word)) rest := by
  induction word generalizing chars with
  | nil => rw [List.append_nil]; rfl
  | cons c word ih =>
      have hc := h c List.mem_cons_self
      have hsilent : lexStep floats (.word chars) c = some ([], .word (chars ++ [c])) := by
        simp [lexStep, hc]
      rw [List.cons_append, lexFrom_silent hsilent,
        ih _ fun d hd => h d (List.mem_cons_of_mem _ hd), List.append_assoc,
        List.singleton_append]

theorem lexStart_word (h : isWordChar c = true) : lexStart c = some ([], .word [c]) := by
  have hblank : isBlank c = false := by
    by_contra hnot
    rw [Bool.not_eq_false] at hnot
    simp only [isBlank, Bool.or_eq_true, beq_iff_eq] at hnot
    rcases hnot with ((rfl | rfl) | rfl) | rfl <;> revert h <;> decide
  have hquote : c ≠ '"' := by
    rintro rfl
    revert h
    decide
  simp [lexStart, hblank, hquote, h]

theorem lexFrom_between_word {t : Token} {word rest : List Char} (h : t.word floats = some word) :
    lexFrom floats .between (word ++ rest) = lexFrom floats (.word word) rest := by
  cases hword : word with
  | nil => exact absurd hword (word_ne_nil h)
  | cons c later =>
      have hchars := word_chars h
      rw [hword] at hchars
      have hstart : lexStep floats .between c = some ([], .word [c]) :=
        lexStart_word (hchars c List.mem_cons_self)
      rw [List.cons_append, lexFrom_silent hstart,
        lexFrom_word _ _ _ fun d hd => hchars d (List.mem_cons_of_mem _ hd)]
      rfl

theorem render_word (h : t.word floats = some word) : t.render floats = word := by
  have hmark : t.mark = none := by
    cases t <;> first | rfl | cases h
  cases t with
  | text s => cases h
  | _ => simp [Token.render, hmark, h]

theorem render_mark (h : t.mark = some c) : t.render floats = [c] := by
  cases t with
  | text s => cases h
  | _ => simp [Token.render, h]

theorem Token.kind (floats : FloatText) (t : Token) :
    (∃ c, t.mark = some c) ∨ (∃ word, t.word floats = some word) ∨ ∃ s, t = .text s := by
  cases t with
  | boolean b => cases b <;> exact Or.inr (Or.inl ⟨_, rfl⟩)
  | text s => exact Or.inr (Or.inr ⟨s, rfl⟩)
  | null => exact Or.inr (Or.inl ⟨_, rfl⟩)
  | nan => exact Or.inr (Or.inl ⟨_, rfl⟩)
  | integer n => exact Or.inr (Or.inl ⟨_, rfl⟩)
  | float q => exact Or.inr (Or.inl ⟨_, rfl⟩)
  | _ => exact Or.inl ⟨_, rfl⟩

theorem lexFrom_text (s : String) (rest : List Char) :
    lexFrom floats .between (Token.render floats (.text s) ++ rest) =
      (lexFrom floats .between rest).map fun later => .text s :: later := by
  have hquote : lexStep floats (.string s.toList) '"' =
      some ([.text s], .between) := by
    simp [lexStep]
  calc
    lexFrom floats .between (Token.render floats (.text s) ++ rest)
        = lexFrom floats .between ('"' :: (escape s.toList ++ ('"' :: rest))) := by
          simp [Token.render]
    _ = lexFrom floats (.string []) (escape s.toList ++ ('"' :: rest)) := lexFrom_silent rfl
    _ = lexFrom floats (.string s.toList) ('"' :: rest) := lexFrom_escape [] _ _
    _ = _ := lexFrom_emit hquote

theorem lexFrom_word_mark
    (hword : t.word floats = some word) (hmark : p.mark = some c) (rest : List Char) :
    lexFrom floats (.word word) (c :: rest) =
      (lexFrom floats .between (c :: rest)).map fun later => t :: later := by
  have hstep : lexStep floats (.word word) c = some ([t, p], .between) := by
    simp [lexStep, not_isWordChar_mark hmark, readWord_word hword, lexStart_mark hmark]
  have hstart : lexStep floats .between c = some ([p], .between) := lexStart_mark hmark
  rw [lexFrom_emit hstep, lexFrom_emit hstart, Option.map_map]
  rfl

/-- **Written tokens are read back**, in front of the tokens of the rest. -/
theorem lexFrom_render {tokens : List Token} (h : Closed floats tokens) (rest : List Char) :
    lexFrom floats .between (render floats tokens ++ rest) =
      (lexFrom floats .between rest).map fun later => tokens ++ later := by
  induction tokens with
  | nil => simp [render]
  | cons t tokens ih =>
      have hsplit : render floats (t :: tokens) ++ rest =
          t.render floats ++ (render floats tokens ++ rest) := by
        simp [render]
      have hlater : (lexFrom floats .between (render floats tokens ++ rest)).map
          (fun later => t :: later) =
          (lexFrom floats .between rest).map fun later => t :: tokens ++ later := by
        rw [ih h.2, Option.map_map]
        rfl
      rw [hsplit]
      rcases t.kind floats with ⟨c, hmark⟩ | ⟨word, hword⟩ | ⟨s, rfl⟩
      · have hstart : lexStep floats .between c = some ([t], .between) := lexStart_mark hmark
        rw [render_mark hmark, List.singleton_append, lexFrom_emit hstart, ← hlater]
        rfl
      · obtain ⟨p, later, c, rfl, hmark⟩ := h.1 (by simp [Token.IsWord, hword])
        have hhead : render floats (p :: later) ++ rest =
            c :: (render floats later ++ rest) := by
          simp [render, render_mark hmark]
        rw [render_word hword, lexFrom_between_word hword, ← hlater, hhead,
          lexFrom_word_mark hword hmark]
      · rw [lexFrom_text, hlater]

theorem lexFrom_single (h : t.word floats = some word) :
    lexFrom floats .between (t.render floats) = some [t] := by
  have hword := @lexFrom_between_word floats t word [] h
  rw [List.append_nil] at hword
  rw [render_word h, hword]
  simp [lexFrom, lexEnd, readWord_word h]

end Tokens

section Characters

variable {floats : FloatText}

end Characters

end Json
end FxStrategyLab.Library
