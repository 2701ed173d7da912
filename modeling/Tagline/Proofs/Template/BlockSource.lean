import Tagline.Template.Statement

/-!
# Templates of one filtered block

The smallest use of a filter in a template writes what the filter makes of one piece of data. Here
that template is read for every name that a filter can have: as tokens, as pieces, and as a
statement.

* `token_name` — a name is read off the front of a text as a whole, however long it is;
* `tokensFrom_blockSource` — the tokens of the template are two names with `|` between them;
* `ofSource_blockSource` — and the template is the one statement that writes the filtered block.

The readers count their steps, and the number they are given is the length of the source. Since
the name of the filter is one token, how many they need does not depend on it.
-/

namespace Tagline

namespace Template

/-! ### Names -/

/-- A name: a letter of the basic range or `_`, and then letters, digits and `_`. -/
def IsName : Text → Prop
  | [] => False
  | c :: s => isNameStart c = true ∧ ∀ d ∈ s, isNameChar d = true

instance : DecidablePred IsName
  | [] => inferInstanceAs (Decidable False)
  | c :: s => decidable_of_iff ((isNameStart c && s.all isNameChar) = true) (by simp [IsName])

theorem IsName.append {s t : Text} (hs : IsName s) (ht : ∀ d ∈ t, isNameChar d = true) :
    IsName (s ++ t) := by
  cases s with
  | nil => exact absurd hs id
  | cons c s =>
    obtain ⟨hc, hs⟩ := hs
    exact ⟨hc, List.forall_mem_append.2 ⟨hs, ht⟩⟩

theorem isNameChar_of_isNameStart {c : Char} (h : isNameStart c = true) :
    isNameChar c = true := by
  unfold isNameStart at h
  unfold isNameChar Char.isAlphanum
  rcases Bool.or_eq_true_iff.1 h with h | h <;> simp [h]

/-- Names begin with a character between `A` and `z`, so with no digit, quote, sign or brace. -/
theorem toNat_of_isNameStart {c : Char} (h : isNameStart c = true) :
    65 ≤ c.toNat ∧ c.toNat ≤ 122 := by
  have hletter : ((c.isUpper || c.isLower) || c == '_') = true := h
  rw [Bool.or_eq_true, Bool.or_eq_true] at hletter
  rcases hletter with (hupper | hlower) | hline
  · have hrange : 65 ≤ c.toNat ∧ c.toNat ≤ 90 := of_decide_eq_true hupper
    omega
  · obtain ⟨ha, hz⟩ := Bool.and_eq_true_iff.1 hlower
    have hrange : 97 ≤ c.toNat ∧ c.toNat ≤ 122 := ⟨of_decide_eq_true ha, of_decide_eq_true hz⟩
    omega
  · rw [eq_of_beq hline]
    decide

theorem ne_of_isNameStart {c d : Char} (h : isNameStart c = true)
    (hd : d.toNat < 65 ∨ 122 < d.toNat) : c ≠ d := by
  rintro rfl
  have hc := toNat_of_isNameStart h
  omega

theorem isDigit_of_isNameStart {c : Char} (h : isNameStart c = true) :
    Number.isDigit c = false := by
  have hc := toNat_of_isNameStart h
  unfold Number.isDigit
  rw [Bool.and_eq_false_iff]
  right
  apply decide_eq_false
  intro hle
  have hle' : c.toNat ≤ 57 := hle
  omega

/-- **A name is one token.** It ends at the blank that stands behind it. -/
theorem token_name {s : Text} (hs : IsName s) (rest : Text) :
    token (s ++ ' ' :: rest) = (.name s, ' ' :: rest) := by
  cases s with
  | nil => exact absurd hs id
  | cons c s =>
    obtain ⟨hc, hchars⟩ := hs
    have hall : ∀ d ∈ c :: s, isNameChar d = true :=
      List.forall_mem_cons.2 ⟨isNameChar_of_isNameStart hc, hchars⟩
    -- texts in quotes and numbers are looked for first
    have hquote : (c == '\'' || c == '"') = false := by
      have hsingle : c ≠ '\'' := ne_of_isNameStart hc (by decide)
      have hdouble : c ≠ '"' := ne_of_isNameStart hc (by decide)
      simp [hsingle, hdouble]
    have htake : (c :: s ++ ' ' :: rest).takeWhile isNameChar = c :: s := by
      rw [List.takeWhile_append_of_pos hall, List.takeWhile_cons_of_neg (by decide), List.append_nil]
    have hdrop : (c :: s ++ ' ' :: rest).dropWhile isNameChar = ' ' :: rest := by
      rw [List.dropWhile_append_of_pos hall, List.dropWhile_cons_of_neg (by decide)]
    rw [List.cons_append] at htake hdrop ⊢
    simp only [token, hquote, isDigit_of_isNameStart hc, hc, htake, hdrop, Bool.false_eq_true,
      if_false, if_true]

/-! ### Tokens of an output -/

/-- A row with one more token in front. -/
def Row.cons (t : Token) (row : Row) : Row := { row with tokens := t :: row.tokens }

/-- The mark that closes an output. -/
def outputEnd : Text := "\x7d\x7d".toList

/-- What begins with a name is not at the mark. -/
theorem closing?_outputEnd {c : Char} (hc : isNameStart c = true) (s : Text) :
    closing? outputEnd (c :: s) = none := by
  -- a sign may stand before the mark and is part of it
  have hminus : c ≠ '-' := ne_of_isNameStart hc (by decide)
  have hplus : c ≠ '+' := ne_of_isNameStart hc (by decide)
  have hbrace : '\x7d' ≠ c := (ne_of_isNameStart hc (by decide)).symm
  have hafter : Text.after? outputEnd (c :: s) = none := if_neg hbrace
  unfold closing?
  split
  · next h => exact absurd (List.cons.inj h).1 hminus
  · next h => exact absurd (List.cons.inj h).1 hplus
  · rw [hafter]
    rfl

theorem skipSpace_name {c : Char} (hc : isNameStart c = true) (s : Text) :
    skipSpace (' ' :: c :: s) = c :: s := by
  have hspace : isSpace c = false := by
    have hne : ∀ d : Char, d.toNat < 65 → c ≠ d := fun d hd => ne_of_isNameStart hc (.inl hd)
    simp [isSpace, hne]
  unfold skipSpace
  rw [List.dropWhile_cons_of_pos (by decide), List.dropWhile_cons_of_neg (by simp [hspace])]

theorem tokensFrom_name (fuel : Nat) {s : Text} (hs : IsName s) (rest : Text) :
    tokensFrom (some outputEnd) (fuel + 1) 0 (' ' :: (s ++ ' ' :: rest)) =
      (tokensFrom (some outputEnd) fuel 0 (' ' :: rest)).cons (.name s) := by
  have htoken := token_name hs rest
  cases s with
  | nil => exact absurd hs id
  | cons c s =>
    obtain ⟨hc, -⟩ := hs
    rw [List.cons_append] at htoken ⊢
    rw [tokensFrom, skipSpace_name hc]
    simp only [if_true, Option.bind_some, closing?_outputEnd hc, htoken]
    rfl

theorem tokensFrom_pipe (fuel : Nat) (rest : Text) :
    tokensFrom (some outputEnd) (fuel + 1) 0 (' ' :: '|' :: rest) =
      (tokensFrom (some outputEnd) fuel 0 rest).cons (.symbol .pipe) := rfl

theorem tokensFrom_outputEnd (fuel : Nat) (rest : Text) :
    tokensFrom (some outputEnd) (fuel + 1) 0 (' ' :: (outputEnd ++ rest)) = ⟨[], false, rest⟩ := rfl

/-! ### The template -/

/-- The template that writes what a filter makes of `block`. -/
def blockSource (filter : Text) : Text :=
  "\x7b\x7b block | ".toList ++ filter ++ " \x7d\x7d".toList

/-- The tokens of the output of a filtered block. -/
def blockTokens (filter : Text) : List Token :=
  [.name "block".toList, .symbol .pipe, .name filter]

/-- Four steps read the output: two names, what stands between them, and the end. -/
theorem tokensFrom_blockSource (fuel : Nat) {filter : Text} (h : IsName filter) :
    tokensFrom (some outputEnd) (fuel + 4) 0
        (" block | ".toList ++ filter ++ " \x7d\x7d".toList) =
      ⟨blockTokens filter, false, []⟩ := by
  have hblock : IsName "block".toList := by decide
  -- what is left after `block`, spelled as the lemmas for the other tokens have it
  have hfirst := tokensFrom_name (fuel + 3) hblock
    ('|' :: ' ' :: (filter ++ ' ' :: (outputEnd ++ [])))
  rw [tokensFrom_pipe (fuel + 2), tokensFrom_name (fuel + 1) h, tokensFrom_outputEnd fuel] at hfirst
  exact hfirst

/-- The template ends in a brace, so no line break is dropped from its end. -/
theorem dropLastBreak_blockSource (filter : Text) :
    dropLastBreak (blockSource filter) = blockSource filter := by
  have hend : (blockSource filter).getLast? = some '\x7d' := by
    unfold blockSource
    rw [List.getLast?_append]
    rfl
  have hlast : ∀ c : Char, c ≠ '\x7d' → Text.before? [c] (blockSource filter) = none := by
    intro c hc
    cases h : Text.before? [c] (blockSource filter) with
    | none => rfl
    | some r =>
      rw [Text.before?_eq_some_iff.1 h, List.getLast?_concat] at hend
      exact absurd (Option.some.inj hend) hc
  unfold dropLastBreak
  rw [hlast '\n' (by decide)]
  show (Text.before? ['\r'] (blockSource filter)).getD _ = _
  rw [hlast '\r' (by decide)]
  rfl

theorem piecesFrom_nil (fuel : Nat) : piecesFrom fuel false [] = [] := by
  cases fuel <;> rfl

/-- The template opens an output at once; what follows it depends on where its tokens end. -/
theorem piecesFrom_blockSource (fuel : Nat) (filter : Text) :
    piecesFrom (fuel + 1) false (blockSource filter) =
      let inside := " block | ".toList ++ filter ++ " \x7d\x7d".toList
      let row := tokensFrom (some outputEnd) (inside.length + 1) 0 inside
      .output row.tokens :: piecesFrom fuel row.trims row.rest := rfl

/-- The template is one output. -/
theorem pieces_blockSource {filter : Text} (h : IsName filter) :
    pieces (blockSource filter) = [.output (blockTokens filter)] := by
  have hlength : (" block | ".toList ++ filter ++ " \x7d\x7d".toList).length + 1 =
      (filter.length + 9) + 4 := by
    simp
  unfold pieces
  rw [dropLastBreak_blockSource, piecesFrom_blockSource]
  simp only [hlength, tokensFrom_blockSource _ h, piecesFrom_nil]

/-- The expression of a filtered block. -/
def blockExpr (filter : Text) : Expr := .filter filter (.var "block".toList) [] []

/-- No test is made of the name of a filter, so reading the tokens does not depend on it. -/
theorem ofTokens_blockTokens (filter : Text) :
    Expr.ofTokens {} (blockTokens filter) = .ok (blockExpr filter) := rfl

/-- Reading a single output: its tokens must be one expression. -/
theorem block_output (fuel : Nat) {ts : List Token} {e : Expr} (h : Expr.ofTokens {} ts = .ok e) :
    Statement.block {} (fuel + 2) [.output ts] = .ok ([.output e], none, []) := by
  rw [Statement.block, h]
  rfl

/-- **The template is the statement that writes the filtered block.** -/
theorem ofSource_blockSource {filter : Text} (h : IsName filter) :
    Statement.ofSource (blockSource filter) = .ok [.output (blockExpr filter)] := by
  have hblock := block_output 4 (ofTokens_blockTokens filter)
  unfold Statement.ofSource
  rw [pieces_blockSource h]
  show Statement.block {} (4 + 2) [.output (blockTokens filter)] >>= _ = _
  rw [hblock]
  rfl

end Template

end Tagline
