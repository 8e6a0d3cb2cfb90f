import FxStrategyLab.Library.Json

/-!
# Cut JSON texts

The text of an object that is cut anywhere in front of its last brace is not read: each of its
proper prefixes opens a brace that it does not close, and whatever the reader accepts closes
what it opens.

**Results.** `loads_cut` and `loads_line`.
-/

namespace FxStrategyLab.Library
namespace Json

def Token.depth : Token → Int
  | .openArray => 1
  | .openObject => 1
  | .closeArray => -1
  | .closeObject => -1
  | _ => 0

theorem comma_depth : Token.depth .comma = 0 := rfl

theorem colon_depth : Token.depth .colon = 0 := rfl

theorem text_depth (s : String) : Token.depth (.text s) = 0 := rfl

def balance (tokens : List Token) : Int :=
  (tokens.map Token.depth).sum

@[simp]
theorem balance_nil : balance [] = 0 := rfl

@[simp]
theorem balance_cons (t : Token) (tokens : List Token) :
    balance (t :: tokens) = t.depth + balance tokens := by
  simp [balance]

@[simp]
theorem balance_append (front back : List Token) :
    balance (front ++ back) = balance front + balance back := by
  simp [balance]

def Nested (tokens : List Token) : Prop :=
  balance tokens = 0 ∧ ∀ front back, tokens = front ++ back → 0 ≤ balance front

theorem nested_nil : Nested [] := by
  refine ⟨rfl, fun front back h => ?_⟩
  simp [(List.append_eq_nil_iff.mp h.symm).1]

variable {tokens later front back : List Token}

theorem Nested.append (h : Nested tokens) (hlater : Nested later) : Nested (tokens ++ later) := by
  refine ⟨by simp [h.1, hlater.1], fun front back hsplit => ?_⟩
  rcases List.append_eq_append_iff.mp hsplit with ⟨rest, rfl, hrest⟩ | ⟨rest, hrest, -⟩
  · simpa [h.1] using hlater.2 rest back hrest
  · exact h.2 front rest hrest

variable {t first last : Token}

theorem nested_single (h : t.depth = 0) : Nested [t] := by
  refine ⟨by simp [h], fun front back hsplit => ?_⟩
  rcases List.cons_eq_append_iff.mp hsplit with ⟨rfl, -⟩ | ⟨rest, rfl, hrest⟩
  · simp
  · simp [h, (List.append_eq_nil_iff.mp hrest.symm).1]

theorem Nested.balance_pos (h : Nested tokens) (hfirst : first.depth = 1) (hfront : front ≠ [])
    (hback : back ≠ []) (hsplit : first :: (tokens ++ [last]) = front ++ back) :
    0 < balance front := by
  obtain ⟨rest, rfl⟩ : ∃ rest, front = first :: rest := by
    rcases List.cons_eq_append_iff.mp hsplit with ⟨rfl, -⟩ | ⟨rest, rfl, -⟩
    · exact absurd rfl hfront
    · exact ⟨rest, rfl⟩
  have hrest : tokens ++ [last] = rest ++ back := (List.cons.inj hsplit).2
  have hinner : 0 ≤ balance rest := by
    rcases List.append_eq_append_iff.mp hrest with ⟨more, rfl, hlast⟩ | ⟨more, htokens, -⟩
    · -- nothing of the last bracket is in front of the cut
      rcases List.cons_eq_append_iff.mp hlast with ⟨rfl, -⟩ | ⟨tail, -, htail⟩
      · simp [h.1]
      · exact absurd (List.append_eq_nil_iff.mp htail.symm).2 hback
    · exact h.2 rest more htokens
  rw [balance_cons, hfirst]
  omega

theorem Nested.between (h : Nested tokens) (hfirst : first.depth = 1) (hlast : last.depth = -1) :
    Nested (first :: (tokens ++ [last])) := by
  have hbalance : balance (first :: (tokens ++ [last])) = 0 := by
    simp [hfirst, hlast, h.1]
  refine ⟨hbalance, fun front back hsplit => ?_⟩
  by_cases hfront : front = []
  · simp [hfront]
  by_cases hback : back = []
  · rw [hback, List.append_nil] at hsplit
    rw [← hsplit, hbalance]
  · exact (h.balance_pos hfirst hfront hback hsplit).le

mutual

theorem nested_tokens : ∀ v : Json, Nested v.tokens
  | .null => by rw [tokens]; exact nested_single rfl
  | .boolean b => by rw [tokens]; exact nested_single rfl
  | .nan => by rw [tokens]; exact nested_single rfl
  | .integer n => by rw [tokens]; exact nested_single rfl
  | .float q => by rw [tokens]; exact nested_single rfl
  | .text s => by rw [tokens]; exact nested_single rfl
  | .array items => by
      rw [tokens]
      exact (nested_itemTokens items).between rfl rfl
  | .object fields => by
      rw [tokens]
      exact (nested_fieldTokens fields).between rfl rfl

theorem nested_itemTokens : ∀ items : List Json, Nested (itemTokens items)
  | [] => by rw [itemTokens]; exact nested_nil
  | v :: rest => by
      rw [itemTokens]
      exact (nested_tokens v).append (nested_itemTailTokens rest)

theorem nested_itemTailTokens : ∀ items : List Json, Nested (itemTailTokens items)
  | [] => by rw [itemTailTokens]; exact nested_nil
  | v :: rest => by
      rw [itemTailTokens]
      exact (nested_single comma_depth).append
        ((nested_tokens v).append (nested_itemTailTokens rest))

theorem nested_fieldTokens : ∀ fields : List (String × Json), Nested (fieldTokens fields)
  | [] => by rw [fieldTokens]; exact nested_nil
  | (key, v) :: rest => by
      rw [fieldTokens]
      exact (nested_single (text_depth key)).append ((nested_single colon_depth).append
        ((nested_tokens v).append (nested_fieldTailTokens rest)))

theorem nested_fieldTailTokens : ∀ fields : List (String × Json),
    Nested (fieldTailTokens fields)
  | [] => by rw [fieldTailTokens]; exact nested_nil
  | (key, v) :: rest => by
      rw [fieldTailTokens]
      exact (nested_single comma_depth).append ((nested_single (text_depth key)).append
        ((nested_single colon_depth).append
          ((nested_tokens v).append (nested_fieldTailTokens rest))))

end

/-- What the functions of the reader leave behind, for an amount of fuel. -/
structure Balanced (fuel : Nat) : Prop where
  value : ∀ {ts v rest}, parseValue fuel ts = some (v, rest) → balance ts = balance rest
  items : ∀ {ts v rest}, parseItems fuel ts = some (v, rest) → balance ts = -1 + balance rest
  itemTail : ∀ {ts vs rest}, parseItemTail fuel ts = some (vs, rest) →
    balance ts = -1 + balance rest
  fields : ∀ {ts v rest}, parseFields fuel ts = some (v, rest) → balance ts = -1 + balance rest
  fieldTail : ∀ {ts vs rest}, parseFieldTail fuel ts = some (vs, rest) →
    balance ts = -1 + balance rest

theorem balanced (fuel : Nat) : Balanced fuel := by
  induction fuel with
  | zero =>
      constructor <;> intro ts v rest h
      · simp [parseValue] at h
      · simp [parseItems] at h
      · simp [parseItemTail] at h
      · simp [parseFields] at h
      · simp [parseFieldTail] at h
  | succ fuel ih =>
      constructor
      · intro ts v rest h
        unfold parseValue at h
        split at h
        case h_2 =>
          rename_i hfuel
          obtain rfl := Nat.succ.inj hfuel
          simp [Token.depth, ih.items h]
        case h_3 =>
          rename_i hfuel
          obtain rfl := Nat.succ.inj hfuel
          simp [Token.depth, ih.fields h]
        case h_1 => simp at h
        case h_10 => simp at h
        all_goals
          obtain ⟨-, rfl⟩ := Prod.mk.inj (Option.some.inj h)
          simp [Token.depth]
      · intro ts v rest h
        unfold parseItems at h
        split at h
        · cases h
        · obtain ⟨-, rfl⟩ := Prod.mk.inj (Option.some.inj h)
          simp [Token.depth]
        · rename_i hfuel _
          obtain rfl := Nat.succ.inj hfuel
          simp only [Option.bind_eq_bind, Option.bind_eq_some_iff, Option.pure_def] at h
          obtain ⟨⟨first, later⟩, hfirst, ⟨items, last⟩, hitems, hlast⟩ := h
          obtain ⟨-, rfl⟩ := Prod.mk.inj (Option.some.inj hlast)
          rw [ih.value hfirst, ih.itemTail hitems]
      · intro ts v rest h
        unfold parseItemTail at h
        split at h
        · cases h
        · obtain ⟨-, rfl⟩ := Prod.mk.inj (Option.some.inj h)
          simp [Token.depth]
        · rename_i hfuel
          obtain rfl := Nat.succ.inj hfuel
          simp only [Option.bind_eq_bind, Option.bind_eq_some_iff, Option.pure_def] at h
          obtain ⟨⟨first, later⟩, hfirst, ⟨items, last⟩, hitems, hlast⟩ := h
          obtain ⟨-, rfl⟩ := Prod.mk.inj (Option.some.inj hlast)
          rw [balance_cons, comma_depth, ih.value hfirst, ih.itemTail hitems, zero_add]
        · cases h
      · intro ts v rest h
        unfold parseFields at h
        split at h
        · cases h
        · obtain ⟨-, rfl⟩ := Prod.mk.inj (Option.some.inj h)
          simp [Token.depth]
        · rename_i hfuel
          obtain rfl := Nat.succ.inj hfuel
          simp only [Option.bind_eq_bind, Option.bind_eq_some_iff, Option.pure_def] at h
          obtain ⟨⟨first, later⟩, hfirst, ⟨fields, last⟩, hfields, hlast⟩ := h
          obtain ⟨-, rfl⟩ := Prod.mk.inj (Option.some.inj hlast)
          simp [text_depth, colon_depth, ih.value hfirst, ih.fieldTail hfields]
        · cases h
      · intro ts v rest h
        unfold parseFieldTail at h
        split at h
        · cases h
        · obtain ⟨-, rfl⟩ := Prod.mk.inj (Option.some.inj h)
          simp [Token.depth]
        · rename_i hfuel
          obtain rfl := Nat.succ.inj hfuel
          simp only [Option.bind_eq_bind, Option.bind_eq_some_iff, Option.pure_def] at h
          obtain ⟨⟨first, later⟩, hfirst, ⟨fields, last⟩, hfields, hlast⟩ := h
          obtain ⟨-, rfl⟩ := Prod.mk.inj (Option.some.inj hlast)
          simp [comma_depth, text_depth, colon_depth, ih.value hfirst, ih.fieldTail hfields]
        · cases h

section Cut

variable {floats : FloatText}

/-- The tokens that a text ends, and the state of the lexer behind it. -/
def lexRun (floats : FloatText) : LexState → List Char → Option (List Token × LexState)
  | state, [] => some ([], state)
  | state, c :: rest => do
      let (tokens, next) ← lexStep floats state c
      let (later, last) ← lexRun floats next rest
      return (tokens ++ later, last)

variable {front back word chars : List Char} {tokens : List Token} {state : LexState}

theorem lexFrom_append (h : lexFrom floats state (front ++ back) = some tokens) :
    ∃ before mid behind, lexRun floats state front = some (before, mid) ∧
      lexFrom floats mid back = some behind ∧ tokens = before ++ behind := by
  induction front generalizing state tokens with
  | nil => exact ⟨[], state, tokens, rfl, h, rfl⟩
  | cons c front ih =>
      simp only [List.cons_append, lexFrom, Option.bind_eq_bind, Option.bind_eq_some_iff,
        Option.pure_def] at h
      obtain ⟨⟨emitted, next⟩, hstep, later, hlater, htokens⟩ := h
      obtain ⟨before, mid, behind, hrun, hback, rfl⟩ := ih hlater
      refine ⟨emitted ++ before, mid, behind, ?_, hback, ?_⟩
      · simp [lexRun, hstep, hrun]
      · rw [← Option.some.inj htokens, List.append_assoc]

theorem lexFrom_eq_lexRun (state : LexState) (chars : List Char) :
    lexFrom floats state chars = do
      let (before, last) ← lexRun floats state chars
      let final ← lexEnd floats last
      return before ++ final := by
  induction chars generalizing state with
  | nil => simp [lexFrom, lexRun]
  | cons c chars ih =>
      simp only [lexFrom, lexRun, ih]
      cases lexStep floats state c with
      | none => rfl
      | some emitted =>
          simp only [Option.bind_eq_bind, Option.bind_some]
          cases lexRun floats emitted.2 chars with
          | none => rfl
          | some run => cases hend : lexEnd floats run.2 <;> simp [hend]

theorem readWord_depth {t : Token} (h : readWord floats word = some t) : t.depth = 0 := by
  unfold readWord at h
  split_ifs at h
  all_goals try
    obtain rfl := Option.some.inj h
    rfl
  split at h
  · obtain rfl := Option.some.inj h
    rfl
  · obtain ⟨q, -, rfl⟩ := Option.map_eq_some_iff.mp h
    rfl

theorem lexEnd_balance (h : lexEnd floats state = some tokens) : balance tokens = 0 := by
  cases state with
  | between =>
      obtain rfl := Option.some.inj h
      rfl
  | word chars =>
      obtain ⟨t, ht, rfl⟩ := Option.map_eq_some_iff.mp h
      simp [readWord_depth ht]
  | string chars => cases h
  | escaped chars => cases h
  | unicode chars digits => cases h

theorem lexFrom_brace
    (h : lexFrom floats state (chars ++ ['\x7d']) = some tokens) : tokens ≠ [] := by
  obtain ⟨before, mid, behind, -, hbrace, rfl⟩ := lexFrom_append h
  have hbehind : behind ≠ [] := by
    rintro rfl
    simp only [lexFrom, Option.bind_eq_bind, Option.bind_eq_some_iff, Option.pure_def] at hbrace
    obtain ⟨⟨emitted, next⟩, hstep, later, hend, hnil⟩ := hbrace
    obtain ⟨rfl, rfl⟩ := List.append_eq_nil_iff.mp (Option.some.inj hnil)
    cases mid with
    | between => simp [lexStep, lexStart, isBlank, isWordChar, punctuation] at hstep
    | word word =>
        cases hword : readWord floats word <;>
          simp [lexStep, lexStart, isBlank, isWordChar, punctuation, hword] at hstep
    | string word =>
        -- the brace is one of the characters of a string that stays open
        obtain rfl : LexState.string (word ++ ['\x7d']) = next := by
          simpa [lexStep] using hstep
        simp [lexFrom, lexEnd] at hend
    | escaped word => simp [lexStep, unescapeChar] at hstep
    | unicode word digits => simp [lexStep, hexValue] at hstep
  simp [hbehind]

/-- **An object that is cut anywhere in front of its last brace is not read.** -/
theorem loads_cut {fields : List (String × Json)} (hback : back ≠ [])
    (h : dumps floats (.object fields) = front ++ back) : loads floats front = none := by
  cases front with
  | nil => simp [loads, lexFrom, lexEnd, parseValue]
  | cons c front =>
      by_contra hread
      obtain ⟨v, hread⟩ := Option.ne_none_iff_exists'.mp hread
      simp only [loads, Option.bind_eq_bind, Option.bind_eq_some_iff] at hread
      obtain ⟨tokens, hlex, ⟨v', rest⟩, hparse, hrest⟩ := hread
      obtain ⟨rfl, -⟩ : rest = [] ∧ v' = v := by
        by_cases hnil : rest = [] <;> simp_all
      have hzero := (balanced _).value hparse
      have hfull : lexFrom floats .between (dumps floats (.object fields)) = _ :=
        lexFrom_dumps (.object fields)
      rw [h] at hfull
      obtain ⟨before, mid, behind, hrun, hlater, hsplit⟩ := lexFrom_append hfull
      rw [lexFrom_eq_lexRun, hrun] at hlex
      obtain ⟨final, hfinal, rfl⟩ : ∃ final, lexEnd floats mid = some final ∧
          before ++ final = tokens := by
        simpa [Option.bind_eq_some_iff] using hlex
      rw [balance_append, lexEnd_balance hfinal, add_zero, balance_nil] at hzero
      -- the last brace is behind the cut, so its token is
      have hlast : dumps floats (.object fields) =
          ('\x7b' :: render floats (fieldTokens fields)) ++ ['\x7d'] := by
        simp [dumps, tokens, render, Token.render, Token.mark]
      obtain ⟨init, hinit⟩ : ∃ init, back = init ++ ['\x7d'] := by
        rw [h] at hlast
        rcases List.append_eq_append_iff.mp hlast with ⟨more, -, rfl⟩ | ⟨more, -, hmore⟩
        · exact ⟨more, rfl⟩
        · rcases List.cons_eq_append_iff.mp hmore with ⟨-, hback'⟩ | ⟨more', -, hnil⟩
          · exact ⟨[], hback'⟩
          · exact absurd (List.append_eq_nil_iff.mp hnil.symm).2 hback
      rw [hinit] at hlater
      have hbehind := lexFrom_brace hlater
      have hbefore : before ≠ [] := by
        rw [hlast] at h
        obtain ⟨rfl, -⟩ := List.cons.inj h
        have hstep : lexStep floats .between '\x7b' = some ([.openObject], .between) := rfl
        simp only [lexRun, hstep, Option.bind_eq_bind, Option.bind_some,
          Option.bind_eq_some_iff] at hrun
        obtain ⟨⟨later, last⟩, -, hlater⟩ := hrun
        obtain ⟨rfl, -⟩ := Prod.mk.inj (Option.some.inj hlater)
        simp
      have htokens : Token.openObject :: (fieldTokens fields ++ [Token.closeObject]) =
          before ++ behind := by rw [← hsplit, tokens]
      exact absurd hzero ((nested_fieldTokens fields).balance_pos rfl hbefore hbehind htokens).ne'

theorem loads_newline (fields : List (String × Json)) :
    loads floats (dumps floats (.object fields) ++ ['\n']) = some (.object fields) := by
  have hblank : lexFrom floats .between ['\n'] = some [] := rfl
  have hlex : lexFrom floats .between (dumps floats (.object fields) ++ ['\n']) =
      some (Json.object fields).tokens := by
    rw [dumps, lexFrom_render (closed_object fields), hblank, Option.map_some, List.append_nil]
  have hparse := parseValue_tokens (.object fields) ((Json.object fields).tokens.length + 1) []
    (by omega)
  rw [List.append_nil] at hparse
  simp [loads, hlex, hparse]

/-- **What is there of a line is read where the object is whole, and as the object.** -/
theorem loads_line {fields : List (String × Json)} {v : Json}
    (hfront : front <+: dumps floats (.object fields) ++ ['\n']) :
    loads floats front = some v ↔
      dumps floats (.object fields) <+: front ∧ v = .object fields := by
  obtain ⟨back, hsplit⟩ := hfront
  rcases List.append_eq_append_iff.mp hsplit with ⟨more, hobject, -⟩ | ⟨more, rfl, hline⟩
  · by_cases hmore : more = []
    · obtain rfl : dumps floats (.object fields) = front := by simpa [hmore] using hobject
      simp [loads_dumps, eq_comm]
    · have hcut : ¬ dumps floats (.object fields) <+: front := by
        intro hpart
        have hle := hpart.length_le
        rw [hobject, List.length_append] at hle
        exact hmore (List.length_eq_zero_iff.mp (by omega))
      simp [loads_cut hmore hobject, hcut]
  · rcases List.cons_eq_append_iff.mp hline with ⟨rfl, -⟩ | ⟨more', rfl, hnil⟩
    · simp [loads_dumps, eq_comm]
    · obtain rfl := (List.append_eq_nil_iff.mp hnil.symm).1
      simp [loads_newline, eq_comm]

end Cut

end Json
end FxStrategyLab.Library
