import Tagline.Proofs.Text.Lines
import Tagline.Proofs.Yaml.FlatScalar
import Tagline.Proofs.Yaml.Readers

/-!
# Flat mappings

The plainest YAML text with something in it is a mapping of scalars, one entry on a line: a key, a
colon and a space, and a value that is a word or stands in single quotes. This module reads such a
text from its characters to its tokens.

The reader takes three steps for an entry. It reads the key, not knowing yet that it is one
(`run_key`); at the colon it announces the key, and before the first one the mapping (`run_colon`);
and then it reads the value (`exists_run_value`). A key is one only on its own line and not too far
back, so its length is bounded.

* `exists_run_entry` — after one entry the reader waits (`Waits`) for the next line or for the end;
* `Waits.run` — so one entry after the other is read, and then the mapping is closed;
* `tokens_text` — the tokens of a flat mapping are those of its entries, between a start and an end.
-/

namespace Tagline

namespace Yaml

namespace Flat

/-! ### Entries -/

/-- A value: a word, or a text in single quotes. -/
inductive Scalar where
  | word (w : Text) (h : IsWord w)
  | quoted (s : Text) (h : ∀ c ∈ s, isPrintable c = true)

namespace Scalar

/-- A value in writing. -/
def source : Scalar → Text
  | .word w _ => w
  | .quoted s _ => '\'' :: (doubled s ++ ['\''])

/-- The way in which a value is written. -/
def style : Scalar → Style
  | .word _ _ => .plain
  | .quoted _ _ => .singleQuoted

/-- The text that is meant. -/
def text : Scalar → Text
  | .word w _ => w
  | .quoted s _ => s

end Scalar

/-- An entry of a flat mapping. The key is short enough to be told from a value. -/
structure Entry where
  key : Text
  word : IsWord key
  short : byteLength key ≤ 1024
  value : Scalar

namespace Entry

/-- The line of an entry. -/
def line (e : Entry) : Text := e.key ++ ':' :: ' ' :: e.value.source

/-- The tokens of an entry. -/
def tokens (e : Entry) : List Token :=
  [.key, .scalar .plain e.key, .value, .scalar e.value.style e.value.text]

end Entry

/-! ### One token -/

theorem closeFrom_of_le {indent column : Int} (h : indent ≤ column) (read : List Token)
    (outer : List Int) : Reader.closeFrom read indent column outer = (read, indent, outer) := by
  cases outer with
  | nil => rfl
  | cons i is => rw [Reader.closeFrom, if_neg (by omega)]

/-- Where no key becomes too old and no collection ends, the next token is read from where it
begins. -/
theorem run_succ {r a : Reader} (h : r.toToken = a) (hflow : a.candidates = [])
    (hkey : a.refresh a.candidate = .ok a.candidate) (hindent : a.indent ≤ a.place.column)
    (fuel : Nat) :
    Reader.run (fuel + 1) r =
      match a.rest with
      | [] => a.finish
      | c :: s => a.dispatch c s >>= Reader.run fuel := by
  have hstale : a.dropStale = .ok a := by
    unfold Reader.dropStale
    rw [hkey, hflow]
    show Except.ok { a with candidate := a.candidate, candidates := [] } = _
    rw [← hflow]
  have hinFlow : a.inFlow = false := by
    unfold Reader.inFlow
    rw [hflow]
    rfl
  have hunindent : a.unindent a.place.column = a := by
    rw [a.unindent_of_not_inFlow hinFlow, closeFrom_of_le hindent]
  unfold Reader.run Reader.advance
  rw [h, hstale]
  show (match (a.unindent a.place.column).rest with
    | [] => (a.unindent a.place.column).finish
    | c :: s => (a.unindent a.place.column).dispatch c s >>= Reader.run fuel) = _
  rw [hunindent]

theorem toToken_eq {r : Reader} {keyAllowed : Bool} {place : Place} {rest : Text}
    (h : Reader.gapFrom r.inFlow r.keyAllowed false r.place r.rest = (keyAllowed, place, rest)) :
    r.toToken = { r with keyAllowed := keyAllowed, place := place, rest := rest } := by
  unfold Reader.toToken
  rw [h]

/-- A gap ends before what is neither white space nor the start of a comment. -/
theorem gapFrom_stop {c : Char} (hbreak : isBreak c = false) (hspace : isSpace c = false)
    (hcomment : c ≠ '#') (hmark : c ≠ '\ufeff') (flow keyAllowed : Bool) (here : Place)
    (s : Text) : Reader.gapFrom flow keyAllowed false here (c :: s) = (keyAllowed, here, c :: s) := by
  obtain ⟨hblank, htab⟩ := Bool.or_eq_false_iff.1 hspace
  rw [gapFrom_cons hbreak, hblank, htab, beq_false_of_ne hcomment, beq_false_of_ne hmark]
  rfl

theorem gapFrom_word {c : Char} (hc : isWordChar c = true) (flow keyAllowed : Bool)
    (here : Place) (s : Text) :
    Reader.gapFrom flow keyAllowed false here (c :: s) = (keyAllowed, here, c :: s) :=
  gapFrom_stop (isBreak_of_isWordChar hc) (isSpace_of_isWordChar hc)
    (ne_of_isWordChar hc (by decide)) (ne_of_isWordChar hc (by decide)) flow keyAllowed here s

/-- A token that came after those in `behind` is put before those in `front`. -/
theorem emitAt_eq {r : Reader} (front behind : List Token) (h : r.read = front ++ behind)
    (t : Token) : r.emitAt behind.length t = { r with read := front ++ t :: behind } := by
  have hlater : r.read.length - behind.length = front.length := by
    rw [h, List.length_append, Nat.add_sub_cancel]
  unfold Reader.emitAt
  dsimp only
  rw [hlater, h, List.take_left, List.drop_left]

theorem indentTo_of_le {r : Reader} {column : Nat} (h : (column : Int) ≤ r.indent) (number : Nat)
    (t : Token) : r.indentTo column number t = r := by
  unfold Reader.indentTo
  rw [if_pos (by rw [decide_eq_true h, Bool.or_true])]

theorem indentTo_of_lt {r : Reader} {column : Nat} (hflow : r.inFlow = false)
    (h : r.indent < column) (number : Nat) (t : Token) :
    r.indentTo column number t =
      { r.emitAt number t with indent := column, outer := r.indent :: r.outer } := by
  have hle : ¬ (column : Int) ≤ r.indent := Int.not_le.2 h
  unfold Reader.indentTo
  rw [if_neg (by rw [hflow, decide_eq_false hle]; exact Bool.false_ne_true)]

/-- A colon behind what may be a key. -/
theorem mappingValue_of_candidate {r : Reader} {k : KeyPlace} (h : r.candidate = some k) :
    r.mappingValue =
      let a := (r.emitAt k.number .key).indentTo k.place.column k.number .blockMappingStart
      .ok (({ a with candidate := none, keyAllowed := false }.skip 1).emit .value) := by
  unfold Reader.mappingValue
  rw [h]

/-- What begins with a character of a word is a plain scalar. -/
theorem dispatch_word {c : Char} (hc : isWordChar c = true) (r : Reader) (s : Text) :
    r.dispatch c s = r.plainScalar := by
  have hne := indicators_of_isWordChar hc
  have hcontains : Reader.indicators.contains c = false := by
    rw [List.contains_eq_any_beq, List.any_eq_false]
    intro d hd
    rw [hne d hd]
    exact Bool.false_ne_true
  have hmark : isDocumentMark (c :: s) = false := by
    have hminus : c ≠ '-' := ne_of_isWordChar hc (by decide)
    have hpoint : c ≠ '.' := ne_of_isWordChar hc (by decide)
    unfold isDocumentMark
    split
    · next h => exact absurd (List.cons.inj h).1 hminus
    · next h => exact absurd (List.cons.inj h).1 hpoint
    · rfl
  unfold Reader.dispatch
  simp only [hne '%' (by decide), hne '[' (by decide), hne '\x7b' (by decide),
    hne ']' (by decide), hne '\x7d' (by decide), hne ',' (by decide), hne '-' (by decide),
    hne '?' (by decide), hne ':' (by decide), hne '*' (by decide), hne '&' (by decide),
    hne '!' (by decide), hne '|' (by decide), hne '>' (by decide), hne '\'' (by decide),
    hne '"' (by decide), hmark, hcontains, isSpace_of_isWordChar hc, Bool.and_false,
    Bool.false_and, Bool.false_eq_true, if_false, Bool.or_false, Bool.not_false, if_true]

theorem dispatch_colon (r : Reader) (s : Text) : r.dispatch ':' (' ' :: s) = r.mappingValue := by
  have hmark : isDocumentMark (':' :: ' ' :: s) = false := rfl
  have hpercent : (':' == '%') = false := by decide
  have hgap : (':' == ':' && (r.inFlow || atGap (' ' :: s))) = true := by
    rw [show atGap (' ' :: s) = true from rfl, Bool.or_true]
    rfl
  unfold Reader.dispatch
  rw [hmark, hpercent, Bool.and_false, hgap]
  rfl

theorem dispatch_quote (r : Reader) (s : Text) :
    r.dispatch '\'' s = r.quotedScalar .singleQuoted singleFrom := by
  have hmark : isDocumentMark ('\'' :: s) = false := rfl
  have hpercent : ('\'' == '%') = false := by decide
  unfold Reader.dispatch
  rw [hmark, hpercent, Bool.and_false]
  rfl

/-! ### One entry -/

/-- A reader at the start of a line, before the first entry or behind one. -/
def start (opened : Bool) (line : Nat) (read : List Token) (rest : Text) : Reader where
  rest := rest
  place := ⟨line, 0⟩
  read := read
  indent := if opened then 0 else -1
  outer := if opened then [-1] else []

/-- The tokens before an entry. The first one opens the mapping. -/
def opening (opened : Bool) (read : List Token) : List Token :=
  if opened then read else .blockMappingStart :: read

/-- A reader that has read a key, which may turn out to be none. Behind the first entry that would
break the indentation. -/
def behindKey (opened : Bool) (line : Nat) (read : List Token) (k rest : Text) : Reader :=
  { start opened line (.scalar .plain k :: read) rest with
    place := (⟨line, 0⟩ : Place).skip k.length
    keyAllowed := false
    candidate := some ⟨opened, read.length, ⟨line, 0⟩, byteLength (k ++ rest)⟩ }

/-- A reader inside the mapping that has read a key with its colon. -/
def beforeValue (place : Place) (read : List Token) (rest : Text) : Reader where
  rest := rest
  place := place
  read := read
  indent := 0
  outer := [-1]
  keyAllowed := false

section Entry

variable {opened : Bool} {line : Nat} {read : List Token} (fuel : Nat)

theorem indent_start_le (opened : Bool) (line : Nat) (read : List Token) (rest : Text) :
    (start opened line read rest).indent ≤ 0 := by
  cases opened
  · exact Int.neg_le_zero_iff.2 Int.one_nonneg
  · exact Int.le_refl 0

theorem plainScalar_start {k : Text} (hk : ∀ c ∈ k, isWordChar c = true) (t : Text) :
    (start opened line read (k ++ ':' :: ' ' :: t)).plainScalar =
      .ok (behindKey opened line read k (':' :: ' ' :: t)) := by
  have hscan := plainFrom_key (i := ((start opened line read []).indent + 1).toNat) hk ⟨line, 0⟩ t
  unfold Reader.plainScalar
  show plainFrom false ((start opened line read []).indent + 1).toNat {} ⟨line, 0⟩
    (k ++ ':' :: ' ' :: t) >>= _ = _
  rw [hscan]
  cases opened <;> rfl

/-- **The key.** -/
theorem run_key {k t : Text} (hk : IsWord k) {r : Reader}
    (h : r.toToken = start opened line read (k ++ ':' :: ' ' :: t)) :
    Reader.run (fuel + 1) r = Reader.run fuel (behindKey opened line read k (':' :: ' ' :: t)) := by
  obtain ⟨hne, hchars⟩ := hk
  have hplain : (start opened line read (k ++ ':' :: ' ' :: t)).plainScalar = _ :=
    plainScalar_start hchars t
  rw [run_succ h rfl rfl (indent_start_le ..)]
  cases k with
  | nil => exact absurd rfl hne
  | cons c w =>
    show (start opened line read (c :: w ++ ':' :: ' ' :: t)).dispatch c
      (w ++ ':' :: ' ' :: t) >>= Reader.run fuel = _
    rw [dispatch_word (List.forall_mem_cons.1 hchars).1, hplain]
    rfl

/-- The key is on the same line and near enough to be one. -/
theorem refresh_behindKey {k : Text} (hk : byteLength k ≤ 1024) (rest : Text) :
    (behindKey opened line read k rest).refresh (behindKey opened line read k rest).candidate =
      .ok (behindKey opened line read k rest).candidate := by
  have hstale : (behindKey opened line read k rest).isStale
      ⟨opened, read.length, ⟨line, 0⟩, byteLength (k ++ rest)⟩ = false := by
    unfold Reader.isStale
    rw [byteLength_append]
    show (decide (line < line) ||
      decide (byteLength rest + 1024 < byteLength k + byteLength rest)) = false
    rw [Bool.or_eq_false_iff, decide_eq_false_iff_not, decide_eq_false_iff_not]
    omega
  show Reader.refresh _ (some _) = _
  rw [Reader.refresh_some, hstale]
  rfl

/-- The key is announced before it, and so is the mapping, if the key is its first. -/
theorem mappingValue_behindKey (k t : Text) :
    (behindKey opened line read k (':' :: ' ' :: t)).mappingValue =
      .ok (beforeValue ((⟨line, 0⟩ : Place).skip (k.length + 1))
        (.value :: .scalar .plain k :: .key :: opening opened read) (' ' :: t)) := by
  have hkey := emitAt_eq (r := behindKey opened line read k (':' :: ' ' :: t))
    [.scalar .plain k] read rfl .key
  rw [mappingValue_of_candidate (k := ⟨opened, read.length, ⟨line, 0⟩, _⟩) rfl, hkey]
  -- a key at the indentation of the mapping is one more of it, and the first one opens it
  cases opened with
  | true =>
    rw [indentTo_of_le (Int.le_refl 0)]
    rfl
  | false =>
    rw [indentTo_of_lt rfl (by decide : (-1 : Int) < 0),
      emitAt_eq [.scalar .plain k, .key] read rfl]
    rfl

/-- **The colon.** -/
theorem run_colon {k t : Text} (hk : byteLength k ≤ 1024) :
    Reader.run (fuel + 1) (behindKey opened line read k (':' :: ' ' :: t)) =
      Reader.run fuel (beforeValue ((⟨line, 0⟩ : Place).skip (k.length + 1))
        (.value :: .scalar .plain k :: .key :: opening opened read) (' ' :: t)) := by
  have htoken : (behindKey opened line read k (':' :: ' ' :: t)).toToken =
      behindKey opened line read k (':' :: ' ' :: t) :=
    toToken_eq (gapFrom_stop (by decide) (by decide) (by decide) (by decide) _ _ _ _)
  have hindent : (behindKey opened line read k (':' :: ' ' :: t)).indent ≤
      (behindKey opened line read k (':' :: ' ' :: t)).place.column :=
    Int.le_trans (indent_start_le opened line read [])
      (Int.natCast_nonneg _)
  rw [run_succ htoken rfl (refresh_behindKey hk _) hindent]
  show (behindKey opened line read k (':' :: ' ' :: t)).dispatch ':' (' ' :: t) >>=
    Reader.run fuel = _
  rw [dispatch_colon, mappingValue_behindKey]
  rfl

/-- A reader behind an entry. The next one begins on the next line, if there is any. -/
def Waits (read : List Token) (rest : Text) (r : Reader) : Prop :=
  ∃ place keyAllowed,
    r.toToken = { beforeValue place read rest with keyAllowed := keyAllowed } ∧
      (rest ≠ [] → place.column = 0 ∧ keyAllowed = true)

theorem Waits.exists_start {c : Char} {s : Text} {r : Reader} (h : Waits read (c :: s) r) :
    ∃ line, r.toToken = start true line read (c :: s) := by
  obtain ⟨⟨line, column⟩, keyAllowed, htoken, hline⟩ := h
  obtain ⟨hcolumn, rfl⟩ := hline (List.cons_ne_nil c s)
  obtain rfl : column = 0 := hcolumn
  exact ⟨line, htoken⟩

/-- Before the end of a line, the rest of the text is on the next one. -/
theorem exists_gapFrom_tail {tail rest : Text} (htail : Tail tail rest) (here : Place) :
    ∃ place keyAllowed, Reader.gapFrom false false false here tail = (keyAllowed, place, rest) ∧
      (rest ≠ [] → place.column = 0 ∧ keyAllowed = true) := by
  have hfeed : ∀ s, Reader.gapFrom false false false here ('\n' :: s) =
      Reader.gapFrom false true false here.nextLine s := gapFrom_lineEnd (.inl rfl)
  cases htail with
  | ended => exact ⟨here, false, rfl, fun h => absurd rfl h⟩
  | feed => exact ⟨here.nextLine, true, by rw [hfeed]; rfl, fun h => absurd rfl h⟩
  | @line c s hc =>
    refine ⟨here.nextLine, true, ?_, fun _ => ⟨rfl, rfl⟩⟩
    rw [hfeed, gapFrom_word hc]

/-- What is left behind a value begins with what is left, so the reader stays where it is. -/
theorem gapFrom_of_tail {tail rest : Text} (htail : Tail tail rest) (keyAllowed : Bool)
    (here : Place) :
    Reader.gapFrom false keyAllowed false here rest = (keyAllowed, here, rest) := by
  cases htail with
  | ended => rfl
  | feed => rfl
  | line hc => exact gapFrom_word hc false keyAllowed here _

/-- A word as a value. -/
theorem exists_plainScalar_value {w : Text} (hw : ∀ c ∈ w, isWordChar c = true)
    {tail rest : Text} (htail : Tail tail rest) (place : Place) (read : List Token) :
    ∃ r, (beforeValue place read (w ++ tail)).plainScalar = .ok r ∧
      Waits (.scalar .plain w :: read) rest r := by
  obtain ⟨behind, broken, hscan, hline⟩ := exists_plainFrom_value hw place htail
  refine ⟨{ beforeValue behind (.scalar .plain w :: read) rest with keyAllowed := broken }, ?_,
    behind, broken, toToken_eq (gapFrom_of_tail htail _ _), hline⟩
  unfold Reader.plainScalar
  show plainFrom false 1 {} place (w ++ tail) >>= _ = _
  rw [hscan]
  rfl

theorem Tail.head?_ne {tail rest : Text} (htail : Tail tail rest) :
    tail.head? ≠ some '\'' := by
  cases htail <;> simp

/-- A text in single quotes as a value. -/
theorem exists_quotedScalar_value {s : Text} (hs : ∀ c ∈ s, isPrintable c = true)
    {tail rest : Text} (htail : Tail tail rest) (place : Place) (read : List Token) :
    ∃ r, (beforeValue place read ('\'' :: (doubled s ++ '\'' :: tail))).quotedScalar
        .singleQuoted singleFrom = .ok r ∧
      Waits (.scalar .singleQuoted s :: read) rest r := by
  obtain ⟨behind, hscan⟩ := exists_singleFrom_doubled hs (g := {}) rfl
    (place.skip 1) (Nat.succ_ne_zero _) htail.head?_ne
  obtain ⟨next, keyAllowed, hgap, hline⟩ := exists_gapFrom_tail htail behind
  refine ⟨beforeValue behind (.scalar .singleQuoted s :: read) tail, ?_, next, keyAllowed,
    toToken_eq hgap, hline⟩
  unfold Reader.quotedScalar
  show singleFrom {} (place.skip 1) (doubled s ++ '\'' :: tail) >>= _ = _
  rw [hscan]
  rfl

/-- The space before a value is passed over, and the value is read from its first character on. -/
theorem run_beforeValue {c : Char} {s : Text} {place : Place}
    (hgap : Reader.gapFrom false false false place.next (c :: s) = (false, place.next, c :: s)) :
    Reader.run (fuel + 1) (beforeValue place read (' ' :: c :: s)) =
      (beforeValue place.next read (c :: s)).dispatch c s >>= Reader.run fuel := by
  have hspace : Reader.gapFrom false false false place (' ' :: c :: s) =
      (false, place.next, c :: s) := by
    rw [gapFrom_cons (by decide)]
    exact hgap
  have htoken : (beforeValue place read (' ' :: c :: s)).toToken =
      beforeValue place.next read (c :: s) := toToken_eq hspace
  rw [run_succ htoken rfl rfl (Int.natCast_nonneg _)]
  rfl

/-- **The value.** -/
theorem exists_run_value (read : List Token) (v : Scalar) {tail rest : Text}
    (htail : Tail tail rest) (place : Place) :
    ∃ r, Reader.run (fuel + 1) (beforeValue place read (' ' :: (v.source ++ tail))) =
        Reader.run fuel r ∧
      Waits (.scalar v.style v.text :: read) rest r := by
  cases v with
  | word w hw =>
    -- which scalar it is, the reader tells by the first character
    obtain ⟨hne, hchars⟩ := hw
    obtain ⟨c, w, rfl⟩ := List.exists_cons_of_ne_nil hne
    have hc := (List.forall_mem_cons.1 hchars).1
    obtain ⟨r, hr, hwaits⟩ := exists_plainScalar_value hchars htail place.next read
    refine ⟨r, ?_, hwaits⟩
    show Reader.run (fuel + 1) (beforeValue place read (' ' :: c :: (w ++ tail))) = _
    rw [run_beforeValue fuel (gapFrom_word hc _ _ _ _), dispatch_word hc]
    exact congrArg (· >>= Reader.run fuel) hr
  | quoted s hs =>
    obtain ⟨r, hr, hwaits⟩ := exists_quotedScalar_value hs htail place.next read
    have hsource : (Scalar.quoted s hs).source ++ tail = '\'' :: (doubled s ++ '\'' :: tail) := by
      simp [Scalar.source]
    refine ⟨r, ?_, hwaits⟩
    rw [hsource, run_beforeValue fuel
      (gapFrom_stop (by decide) (by decide) (by decide) (by decide) _ _ _ _), dispatch_quote, hr]
    rfl

/-- **One entry.** Three tokens are read and as many announced, and the reader is behind it. -/
theorem exists_run_entry (e : Entry) {tail rest : Text} (htail : Tail tail rest) {r : Reader}
    (h : r.toToken = start opened line read (e.line ++ tail)) :
    ∃ r', Reader.run (fuel + 3) r = Reader.run fuel r' ∧
      Waits (e.tokens.reverse ++ opening opened read) rest r' := by
  have hline : e.line ++ tail = e.key ++ ':' :: ' ' :: (e.value.source ++ tail) := by
    simp [Entry.line]
  rw [hline] at h
  obtain ⟨r', hrun, hwaits⟩ := exists_run_value fuel
    (.value :: .scalar .plain e.key :: .key :: opening opened read) e.value htail
    ((⟨line, 0⟩ : Place).skip (e.key.length + 1))
  refine ⟨r', ?_, hwaits⟩
  rw [run_key (fuel + 2) e.word h, run_colon (fuel + 1) e.short, hrun]

end Entry

/-! ### All entries -/

/-- Entries in writing, one on a line, with `last` behind the last one. -/
def text (last : Text) : List Entry → Text
  | [] => []
  | [e] => e.line ++ last
  | e :: f :: es => e.line ++ '\n' :: text last (f :: es)

theorem joinLines_append (last : Text) {es : List Entry} (h : es ≠ []) :
    Text.joinLines (es.map Entry.line) ++ last = text last es := by
  induction es with
  | nil => exact absurd rfl h
  | cons e es ih =>
    cases es with
    | nil => rfl
    | cons f es =>
      rw [List.map_cons, Text.joinLines_cons (by simp), List.append_assoc, List.cons_append,
        ih (List.cons_ne_nil f es)]
      rfl

theorem Entry.exists_line_eq (e : Entry) : ∃ c s, e.line = c :: s ∧ isWordChar c = true := by
  obtain ⟨hne, hchars⟩ := e.word
  obtain ⟨c, w, hkey⟩ := List.exists_cons_of_ne_nil hne
  have hc : isWordChar c = true := by
    rw [hkey] at hchars
    exact hchars c List.mem_cons_self
  refine ⟨c, w ++ ':' :: ' ' :: e.value.source, ?_, hc⟩
  unfold Entry.line
  rw [hkey]
  rfl

theorem exists_text_eq (last : Text) (e : Entry) (es : List Entry) :
    ∃ c s, text last (e :: es) = c :: s ∧ isWordChar c = true := by
  obtain ⟨c, s, hline, hc⟩ := e.exists_line_eq
  cases es with
  | nil => exact ⟨c, s ++ last, by rw [text, hline]; rfl, hc⟩
  | cons f es => exact ⟨c, s ++ '\n' :: text last (f :: es), by rw [text, hline]; rfl, hc⟩

theorem allBlank_text (last : Text) {es : List Entry} (hes : es ≠ []) :
    Text.allBlank (text last es) = false := by
  obtain ⟨e, es, rfl⟩ := List.exists_cons_of_ne_nil hes
  obtain ⟨c, s, htext, hc⟩ := exists_text_eq last e es
  unfold Text.allBlank
  rw [htext, List.all_cons, isBlank_of_isWordChar hc, Bool.false_and]

/-- Behind an entry there is the end of its line and the text of the others. -/
theorem exists_tail {last : Text} (hlast : last = [] ∨ last = ['\n']) (e : Entry)
    (es : List Entry) :
    ∃ tail, text last (e :: es) = e.line ++ tail ∧ Tail tail (text last es) := by
  cases es with
  | nil =>
    refine ⟨last, rfl, ?_⟩
    rcases hlast with rfl | rfl
    · exact .ended
    · exact .feed
  | cons f es =>
    obtain ⟨c, s, htext, hc⟩ := exists_text_eq last f es
    refine ⟨'\n' :: text last (f :: es), rfl, ?_⟩
    rw [htext]
    exact .line hc

/-- At the end of the text the mapping is closed. -/
theorem Waits.run_end {read : List Token} {r : Reader} (h : Waits read [] r) (fuel : Nat) :
    ∃ a, Reader.run (fuel + 1) r = .ok a ∧ a.read = .blockEnd :: read := by
  obtain ⟨place, keyAllowed, htoken, -⟩ := h
  rw [run_succ htoken rfl rfl (Int.natCast_nonneg _)]
  exact ⟨_, rfl, rfl⟩

/-- **All entries.** One after the other is read, and then the mapping is closed. -/
theorem Waits.run {last : Text} (hlast : last = [] ∨ last = ['\n']) {es : List Entry}
    {read : List Token} {r : Reader} (h : Waits read (text last es) r) {fuel : Nat}
    (hfuel : 3 * es.length < fuel) :
    ∃ a, Reader.run fuel r = .ok a ∧
      a.read = .blockEnd :: (es.flatMap Entry.tokens).reverse ++ read := by
  -- on the entries: each takes three steps and leaves the reader before the next one
  induction es generalizing read r fuel with
  | nil =>
    obtain ⟨fuel, rfl⟩ := Nat.exists_eq_add_of_lt hfuel
    exact h.run_end _
  | cons e es ih =>
    obtain ⟨tail, htext, htail⟩ := exists_tail hlast e es
    obtain ⟨c, s, hcons, -⟩ := exists_text_eq last e es
    rw [hcons] at h
    obtain ⟨line, hstart⟩ := h.exists_start
    rw [← hcons, htext] at hstart
    rw [List.length_cons] at hfuel
    obtain ⟨more, rfl⟩ : ∃ more, fuel = more + 3 := ⟨fuel - 3, by omega⟩
    have hmore : 3 * es.length < more := by omega
    obtain ⟨r', hrun, hwaits⟩ := exists_run_entry more e htail hstart
    obtain ⟨a, ha, hread⟩ := ih hwaits hmore
    refine ⟨a, hrun.trans ha, ?_⟩
    rw [hread, List.flatMap_cons, List.reverse_append]
    simp [opening]

theorem Entry.three_le_length (e : Entry) : 3 ≤ e.line.length := by
  have hkey : 0 < e.key.length := List.length_pos_iff.2 e.word.1
  unfold Entry.line
  rw [List.length_append, List.length_cons, List.length_cons]
  omega

theorem length_le_text (last : Text) (es : List Entry) : 3 * es.length ≤ (text last es).length := by
  induction es with
  | nil => exact Nat.zero_le _
  | cons e es ih =>
    have hline := e.three_le_length
    cases es with
    | nil =>
      show 3 ≤ (e.line ++ last).length
      rw [List.length_append]
      omega
    | cons f es =>
      show 3 * (es.length + 2) ≤ (e.line ++ '\n' :: text last (f :: es)).length
      rw [List.length_append, List.length_cons]
      rw [List.length_cons] at ih
      omega

/-! ### Characters -/

theorem isAllowed_of_isWordChar {c : Char} (h : isWordChar c = true) : isAllowed c = true :=
  isAllowed_of_isPrintable (isPrintable_of_isWordChar h)

theorem Scalar.isAllowed_source (v : Scalar) : v.source.all isAllowed = true := by
  rw [List.all_eq_true]
  intro c hc
  cases v with
  | word w hw => exact isAllowed_of_isWordChar (hw.2 c hc)
  | quoted s hs =>
    rcases List.mem_cons.1 hc with rfl | hc
    · decide
    · rcases List.mem_append.1 hc with hc | hc
      · obtain ⟨d, hd, hcd⟩ := List.mem_flatMap.1 hc
        have hmem : c = '\'' ∨ c = d := by
          split at hcd
          · exact .inl (by simpa using hcd)
          · exact .inr (List.mem_singleton.1 hcd)
        rcases hmem with rfl | rfl
        · decide
        · exact isAllowed_of_isPrintable (hs c hd)
      · rw [List.mem_singleton.1 hc]
        decide

theorem Entry.isAllowed_line (e : Entry) : e.line.all isAllowed = true := by
  have hkey : e.key.all isAllowed = true :=
    List.all_eq_true.2 fun c hc => isAllowed_of_isWordChar (e.word.2 c hc)
  unfold Entry.line
  rw [List.all_append, hkey, List.all_cons, List.all_cons, e.value.isAllowed_source]
  decide

theorem isAllowed_text {last : Text} (hlast : last = [] ∨ last = ['\n']) (es : List Entry) :
    (text last es).all isAllowed = true := by
  have hend : last.all isAllowed = true := by
    rcases hlast with rfl | rfl <;> decide
  induction es with
  | nil => rfl
  | cons e es ih =>
    cases es with
    | nil =>
      show (e.line ++ last).all isAllowed = true
      rw [List.all_append, e.isAllowed_line, hend]
      rfl
    | cons f es =>
      show (e.line ++ '\n' :: text last (f :: es)).all isAllowed = true
      rw [List.all_append, e.isAllowed_line, List.all_cons, ih]
      decide

/-- **The tokens of a flat mapping.** -/
theorem tokens_text {last : Text} (hlast : last = [] ∨ last = ['\n']) {es : List Entry}
    (hes : es ≠ []) :
    Yaml.tokens (text last es) =
      .ok (.blockMappingStart :: es.flatMap Entry.tokens ++ [.blockEnd]) := by
  obtain ⟨e, es, rfl⟩ := List.exists_cons_of_ne_nil hes
  obtain ⟨tail, htext, htail⟩ := exists_tail hlast e es
  obtain ⟨c, s, hcons, hc⟩ := exists_text_eq last e es
  have hlength := length_le_text last (e :: es)
  have hstart : ({ rest := text last (e :: es) } : Reader).toToken =
      start false 0 [] (e.line ++ tail) := by
    rw [← htext, hcons]
    exact toToken_eq (gapFrom_word hc _ _ _ _)
  -- a line has at least three characters, so there are steps enough
  rw [List.length_cons] at hlength
  obtain ⟨more, hfuel⟩ : ∃ more, (text last (e :: es)).length + 1 = more + 3 :=
    ⟨(text last (e :: es)).length - 2, by omega⟩
  have hmore : 3 * es.length < more := by omega
  obtain ⟨r, hrun, hwaits⟩ := exists_run_entry more e htail hstart
  obtain ⟨a, ha, hread⟩ := hwaits.run hlast hmore
  unfold Yaml.tokens
  rw [if_pos (isAllowed_text hlast _), hfuel, hrun, ha]
  show Except.ok a.read.reverse = _
  rw [hread]
  simp [opening]

end Flat

end Yaml

end Tagline
