import SchemaLoom.Proofs.Json.Number
import SchemaLoom.Proofs.Text.Names

/-!
# Texts of tokens

A text spells a list of tokens when it is made of their characters and of blanks, and no word or
number runs on into what follows it. The lexer finds exactly these tokens in it: brackets and other
marks at once, string literals at their closing quote, words and numbers when the character behind
them shows that they have ended.
-/
namespace SchemaLoom.Json

/-- A character that ends a word or a number before it. -/
def isBreak (c : Char) : Bool := !c.isAlpha && !isNumberChar c

/-- A text into which no word or number runs on. -/
def Breaks (cs : List Char) : Prop := ∀ c ∈ cs.head?, isBreak c = true

def Token.mark : Token → Option Char
  | .openArray => some '['
  | .closeArray => some ']'
  | .openObject => some '\x7b'
  | .closeObject => some '\x7d'
  | .comma => some ','
  | .colon => some ':'
  | .scalar _ => none

def IsScalar : Json → Prop
  | .array _ => False
  | .object _ => False
  | _ => True

/-- The text is made of the tokens in order, with blanks between them. -/
inductive Spells : List Token → List Char → Prop where
  | nil : Spells [] []
  | blank {c : Char} {ts : List Token} {cs : List Char} (hc : isBlank c = true)
      (h : Spells ts cs) : Spells ts (c :: cs)
  | mark {t : Token} {c : Char} {ts : List Token} {cs : List Char} (ht : t.mark = some c)
      (h : Spells ts cs) : Spells (t :: ts) (c :: cs)
  | scalar {v : Json} {ts : List Token} {cs : List Char} (hv : v.IsScalar) (hcs : Breaks cs)
      (h : Spells ts cs) : Spells (.scalar v :: ts) (v.renderScalar.toList ++ cs)

/-- Lexing of the rest of a text, outside of any token and after those in `done`. -/
def scan (done : List Token) (cs : List Char) : Option (List Token) :=
  cs.foldlM Lexer.feed ⟨done, .idle⟩ >>= Lexer.settle

theorem tokenize_eq_scan (cs : List Char) : tokenize cs = (scan [] cs).map List.reverse := rfl

theorem scan_nil (done : List Token) : scan done [] = some done := rfl

theorem scan_cons (done : List Token) (c : Char) (cs : List Char) :
    scan done (c :: cs) =
      Lexer.begin done c >>= fun l => cs.foldlM Lexer.feed l >>= Lexer.settle := by
  simp only [scan, List.foldlM_cons, bind_assoc]
  rfl

theorem scan_blank {c : Char} (hc : isBlank c = true) (done : List Token) (cs : List Char) :
    scan done (c :: cs) = scan done cs := by
  have hbegin : Lexer.begin done c = some ⟨done, .idle⟩ := if_pos hc
  rw [scan_cons, hbegin]
  rfl

theorem scan_mark {t : Token} {c : Char} (ht : t.mark = some c) (done : List Token)
    (cs : List Char) : scan done (c :: cs) = scan (t :: done) cs := by
  rw [scan_cons]
  cases t <;> cases ht <;> rfl

/-- What could end here has ended once a breaking character is met. -/
theorem feed_of_settle {l : Lexer} {done : List Token} {c : Char} (h : l.settle = some done)
    (hc : isBreak c = true) : l.feed c = Lexer.begin done c := by
  simp only [isBreak, Bool.and_eq_true, Bool.not_eq_true'] at hc
  obtain ⟨tokens, mode⟩ := l
  cases mode with
  | idle =>
    cases h
    rfl
  | word letters => simp [Lexer.feed, hc.1, h]
  | digits chars => simp [Lexer.feed, hc.2, h]
  | text pieces => cases h
  | escape pieces => cases h
  | unit pieces count value => cases h

theorem scan_of_settle {l : Lexer} {done : List Token} {cs : List Char} (h : l.settle = some done)
    (hcs : Breaks cs) : cs.foldlM Lexer.feed l >>= Lexer.settle = scan done cs := by
  cases cs with
  | nil => exact h
  | cons c cs =>
    rw [scan_cons, List.foldlM_cons, feed_of_settle h (hcs c rfl)]
    exact Option.bind_assoc ..

/-! ## String literals -/

theorem hexValue?_hexDigit : ∀ n < 16, hexValue? (hexDigit n) = some n := by decide

theorem feed_hex {c : Char} {d : Nat} (h : hexValue? c = some d) (done : List Token)
    (pieces : List Piece) (count value : Nat) : Lexer.feed ⟨done, .unit pieces count value⟩ c =
      some (if count = 3 then ⟨done, .text (.unit (value * 16 + d) :: pieces)⟩
        else ⟨done, .unit pieces (count + 1) (value * 16 + d)⟩) := by
  simp [Lexer.feed, h]

/-- A unit that is no half of a surrogate pair spells its character. -/
theorem spell_unit {c : Char} (h : c.toNat < 0x20) (ps : List Piece) :
    Piece.spell (.unit c.toNat :: ps) = (c :: ·) <$> Piece.spell ps := by
  have hhigh : ¬Piece.isHigh c.toNat = true := by
    simp [Piece.isHigh]
    omega
  have hlow : ¬Piece.isLow c.toNat = true := by
    simp [Piece.isLow]
    omega
  rw [Piece.spell.eq_def]
  simp [hhigh, hlow]

/-- A character between quotes becomes one piece that spells it. -/
theorem feed_escapeChar (c : Char) (done : List Token) (pieces : List Piece) :
    ∃ p, (escapeChar c).foldlM Lexer.feed ⟨done, .text pieces⟩ = some ⟨done, .text (p :: pieces)⟩ ∧
      ∀ ps, Piece.spell (p :: ps) = (c :: ·) <$> Piece.spell ps := by
  unfold escapeChar
  -- All but the last form are an escape of one letter, which the lexer answers with the character.
  split
  case h_8 hquote hbackslash _ _ _ _ _ =>
    split
    · next hc =>
      have hhigh := hexValue?_hexDigit (c.toNat / 16) (by omega)
      have hlow := hexValue?_hexDigit (c.toNat % 16) (by omega)
      have hzero : hexValue? '0' = some 0 := rfl
      have hvalue : c.toNat / 16 * 16 + c.toNat % 16 = c.toNat := by omega
      have hstart : Lexer.feed ⟨done, .text pieces⟩ '\\' = some ⟨done, .escape pieces⟩ := rfl
      have hunit : Lexer.feed ⟨done, .escape pieces⟩ 'u' = some ⟨done, .unit pieces 0 0⟩ := rfl
      refine ⟨.unit c.toNat, ?_, spell_unit hc⟩
      simp [hstart, hunit, feed_hex hzero, feed_hex hhigh, feed_hex hlow, hvalue]
    · next hc =>
      refine ⟨.char c, ?_, fun ps => rfl⟩
      have hquote : c ≠ '"' := hquote
      have hbackslash : c ≠ '\\' := hbackslash
      simp [Lexer.feed, hc, hquote, hbackslash]
  all_goals exact ⟨.char _, rfl, fun ps => rfl⟩

theorem feed_escapeChars (cs : List Char) (done : List Token) (pieces : List Piece) :
    ∃ ps, (cs.flatMap escapeChar).foldlM Lexer.feed ⟨done, .text pieces⟩ =
        some ⟨done, .text (ps.reverse ++ pieces)⟩ ∧ Piece.spell ps = some cs := by
  induction cs generalizing pieces with
  | nil => exact ⟨[], rfl, rfl⟩
  | cons c cs ih =>
    obtain ⟨p, hp, hspell⟩ := feed_escapeChar c done pieces
    obtain ⟨ps, hps, hcs⟩ := ih (p :: pieces)
    refine ⟨p :: ps, ?_, ?_⟩
    · rw [List.flatMap_cons, List.foldlM_append, hp]
      simpa using hps
    · rw [hspell, hcs]
      rfl

theorem feed_quote (s : String) (done : List Token) :
    (quote s).toList.foldlM Lexer.feed ⟨done, .idle⟩ =
      some ⟨.scalar (.string s) :: done, .idle⟩ := by
  obtain ⟨ps, hps, hspell⟩ := feed_escapeChars s.toList done []
  have hopen : Lexer.feed ⟨done, .idle⟩ '"' = some ⟨done, .text []⟩ := rfl
  have hclose : Lexer.feed ⟨done, .text ps.reverse⟩ '"' =
      some ⟨textToken ps :: done, .idle⟩ := by
    simp [Lexer.feed, Lexer.emit]
  have htext : textToken ps = .scalar (.string s) := by
    simp [textToken, hspell]
  simp only [List.append_nil] at hps
  simp [quote, hopen, hps, hclose, htext]

/-- The literal of half a surrogate pair spells no text. -/
theorem feed_unpaired (done : List Token) :
    (Json.unpaired.renderScalar).toList.foldlM Lexer.feed ⟨done, .idle⟩ =
      some ⟨.scalar .unpaired :: done, .idle⟩ := by
  have htext : Json.unpaired.renderScalar.toList = ['"', '\\', 'u', 'd', '8', '0', '0', '"'] := rfl
  have hopen : Lexer.feed ⟨done, .idle⟩ '"' = some ⟨done, .text []⟩ := rfl
  have hstart : Lexer.feed ⟨done, .text []⟩ '\\' = some ⟨done, .escape []⟩ := rfl
  have hunit : Lexer.feed ⟨done, .escape []⟩ 'u' = some ⟨done, .unit [] 0 0⟩ := rfl
  have hclose : Lexer.feed ⟨done, .text [.unit 0xD800]⟩ '"' =
      some ⟨textToken [.unit 0xD800] :: done, .idle⟩ := rfl
  have htoken : textToken [.unit 0xD800] = .scalar .unpaired := rfl
  have hd : hexValue? 'd' = some 13 := rfl
  have hdigit : hexValue? '8' = some 8 := rfl
  have hzero : hexValue? '0' = some 0 := rfl
  simp [htext, hopen, hstart, hunit, feed_hex hd, feed_hex hdigit, feed_hex hzero, hclose, htoken]

/-! ## Words and numbers -/

theorem isDigit_not_blank {c : Char} (h : c.isDigit = true) :
    isBlank c = false ∧ c.isAlpha = false :=
  Text.forall_short (P := fun c => c.isDigit → isBlank c = false ∧ c.isAlpha = false) (by decide)
    (Text.isShort_of_isNameChar (by simp [Text.isNameChar, Char.isAlphanum, h])) h

theorem isNumberChar_toDigits (n : Nat) : ∀ c ∈ Nat.toDigits 10 n, isNumberChar c = true := by
  intro c hc
  simp [isNumberChar, Decimal.isDigit_of_mem_toDigits hc]

theorem isNumberChar_wholeChars (i : Int) : ∀ c ∈ Decimal.wholeChars i, isNumberChar c = true := by
  unfold Decimal.wholeChars
  split
  · exact isNumberChar_toDigits _
  · exact List.forall_mem_cons.mpr ⟨rfl, isNumberChar_toDigits _⟩

theorem isNumberChar_render (d : Decimal) : ∀ c ∈ d.render.toList, isNumberChar c = true := by
  rw [Decimal.toList_render, List.forall_mem_append]
  refine ⟨isNumberChar_wholeChars _, ?_⟩
  unfold Decimal.powerChars
  split
  · simp
  · exact List.forall_mem_cons.mpr ⟨rfl, isNumberChar_wholeChars _⟩

/-- A number begins with a digit or a sign. -/
theorem begin_wholeChars (i : Int) : ∃ c cs, Decimal.wholeChars i = c :: cs ∧
    ∀ done, Lexer.begin done c = some ⟨done, .digits [c]⟩ := by
  unfold Decimal.wholeChars
  split
  · cases hn : Nat.toDigits 10 i.toNat with
    | nil => exact absurd hn Nat.toDigits_ne_nil
    | cons c cs =>
      have hc : c.isDigit = true := Decimal.isDigit_of_mem_toDigits (hn ▸ List.mem_cons_self)
      obtain ⟨hblank, halpha⟩ := isDigit_not_blank hc
      refine ⟨c, cs, rfl, ?_⟩
      intro done
      simp [Lexer.begin, hblank, halpha, hc]
  · exact ⟨'-', _, rfl, fun done => rfl⟩

theorem feed_numberChars {cs : List Char} (h : ∀ c ∈ cs, isNumberChar c = true)
    (done : List Token) (chars : List Char) :
    cs.foldlM Lexer.feed ⟨done, .digits chars⟩ = some ⟨done, .digits (cs.reverse ++ chars)⟩ := by
  induction cs generalizing chars with
  | nil => rfl
  | cons c cs ih =>
    rw [List.forall_mem_cons] at h
    rw [List.foldlM_cons]
    simp [Lexer.feed, h.1, ih h.2]

theorem feed_number (d : Decimal) (done : List Token) :
    ∃ l, d.render.toList.foldlM Lexer.feed ⟨done, .idle⟩ = some l ∧
      l.settle = some (.scalar (.number d) :: done) := by
  obtain ⟨c, whole, hwhole, hbegin⟩ := begin_wholeChars d.mantissa
  let cs := whole ++ Decimal.powerChars d.exponent
  have htext : d.render.toList = c :: cs := by rw [Decimal.toList_render, hwhole, List.cons_append]
  have hcs : ∀ x ∈ cs, isNumberChar x = true := by
    intro x hx
    exact isNumberChar_render d x (htext ▸ List.mem_cons_of_mem c hx)
  have hstart : Lexer.feed ⟨done, .idle⟩ c = some ⟨done, .digits [c]⟩ := hbegin done
  refine ⟨⟨done, .digits (cs.reverse ++ [c])⟩, ?_, ?_⟩
  · rw [htext, List.foldlM_cons, hstart]
    exact feed_numberChars hcs done [c]
  · have hread := d.read?_render
    rw [htext] at hread
    simp [Lexer.settle, hread]

/-- The text of a scalar leaves its token, at the latest where the text breaks. -/
theorem feed_scalar {v : Json} (hv : v.IsScalar) (done : List Token) :
    ∃ l, v.renderScalar.toList.foldlM Lexer.feed ⟨done, .idle⟩ = some l ∧
      l.settle = some (.scalar v :: done) := by
  cases v with
  | null => exact ⟨_, rfl, rfl⟩
  | bool b => cases b <;> exact ⟨_, rfl, rfl⟩
  | number d => exact feed_number d done
  | string s => exact ⟨_, feed_quote s done, rfl⟩
  | array items => exact hv.elim
  | object fields => exact hv.elim
  | unpaired => exact ⟨_, feed_unpaired done, rfl⟩

theorem scan_scalar {v : Json} (hv : v.IsScalar) {cs : List Char} (hcs : Breaks cs)
    (done : List Token) :
    scan done (v.renderScalar.toList ++ cs) = scan (.scalar v :: done) cs := by
  obtain ⟨l, hl, hsettle⟩ := feed_scalar hv done
  rw [← scan_of_settle hsettle hcs, scan, List.foldlM_append, hl]
  rfl

/-- The lexer finds the tokens that a text spells. -/
theorem Spells.scan {ts : List Token} {cs : List Char} (h : Spells ts cs) (done : List Token) :
    Json.scan done cs = some (ts.reverse ++ done) := by
  induction h generalizing done with
  | nil => exact scan_nil done
  | blank hc _ ih => rw [scan_blank hc, ih]
  | mark ht _ ih =>
    rw [scan_mark ht, ih, List.reverse_cons, List.append_assoc, List.singleton_append]
  | scalar hv hcs _ ih =>
    rw [scan_scalar hv hcs, ih, List.reverse_cons, List.append_assoc, List.singleton_append]

theorem Spells.tokenize {ts : List Token} {cs : List Char} (h : Spells ts cs) :
    Json.tokenize cs = some ts := by
  rw [tokenize_eq_scan, h.scan]
  simp

end SchemaLoom.Json
