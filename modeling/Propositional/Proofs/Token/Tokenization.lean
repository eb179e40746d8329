import Propositional.Proofs.Token.Character
import Propositional.Token.Lexer

/-!
# What a lexer reads

The lexemes of a text say nothing of the lexer that reads it, and nothing of how far it
gets. Here both are put together. A lexer finds the same lexemes whatever it has read
before, and a reading comes to a position exactly when everything in front of it is legal
and leaves something to ask for.

> `Lexer.snd_tokenize`: what a lexer remembers makes no difference.
> `Lexer.Request.comesTo_iff`: which lexemes a reading comes to.
> `Lexer.reads_reached_positions`: the tokens of a reading and its end, by the positions.
-/

namespace Propositional

/-! ## Lexemes that are asked for -/

/-- As many of the lexemes as are asked for. -/
def asked (limit? : Option Nat) (found : List Lexeme) : List Lexeme :=
  match limit? with
  | some limit => found.take limit
  | none => found

theorem tokenize_eq (text : String) (line : Int) (index : Nat) (limit? : Option Nat) :
    tokenize text line index limit? =
      Scan.ofLexemes (asked limit? (lexemesFrom line index (text.toList.drop index))) := by
  cases limit? <;> rfl

theorem asked_zero (found : List Lexeme) : asked (some 0) found = [] := rfl

theorem asked_cons {limit? : Option Nat} (h : limit? ≠ some 0) (lexeme : Lexeme)
    (rest : List Lexeme) :
    asked limit? (lexeme :: rest) = lexeme :: asked (limit?.map (· - 1)) rest := by
  match limit? with
  | none => rfl
  | some 0 => exact absurd rfl h
  | some (limit + 1) => rfl

theorem asked_sublist (limit? : Option Nat) (found : List Lexeme) :
    (asked limit? found).Sublist found := by
  cases limit? with
  | none => exact List.Sublist.refl found
  | some limit => exact List.take_sublist limit found

/-- A lexeme is asked for if fewer are in front of it than are asked for. -/
theorem asked_eq_append_cons_iff {limit? : Option Nat} {found front : List Lexeme}
    {lexeme : Lexeme} :
    (∃ back, asked limit? found = front ++ lexeme :: back) ↔
      (∀ limit ∈ limit?, front.length < limit) ∧ ∃ back, found = front ++ lexeme :: back := by
  cases limit? with
  | none => simp [asked]
  | some limit =>
    simp only [asked, Option.mem_some_iff, forall_eq']
    constructor
    · intro h
      obtain ⟨back, hback⟩ := h
      have hlength : front.length + (back.length + 1) ≤ limit := by
        rw [← List.length_cons, ← List.length_append, ← hback]
        exact List.length_take_le limit found
      refine ⟨by omega, back ++ found.drop limit, ?_⟩
      rw [← List.cons_append, ← List.append_assoc, ← hback, List.take_append_drop]
    · intro h
      obtain ⟨hlt, back, rfl⟩ := h
      obtain ⟨more, rfl⟩ : ∃ more, limit = front.length + (more + 1) :=
        ⟨limit - front.length - 1, by omega⟩
      exact ⟨back.take more, by rw [List.take_length_add_append, List.take_succ_cons]⟩

/-! ## Tokens up to an illegal character -/

/-- There are only tokens in front of the lexeme. -/
def ComesTo (found : List Lexeme) (lexeme : Lexeme) : Prop :=
  ∃ (front : List Token) (back : List Lexeme), found = front.map .ok ++ lexeme :: back

theorem not_comesTo_nil (lexeme : Lexeme) : ¬ComesTo [] lexeme := by
  rintro ⟨front, back, h⟩
  cases front <;> cases h

theorem comesTo_cons_iff {first lexeme : Lexeme} {rest : List Lexeme} :
    ComesTo (first :: rest) lexeme ↔
      first = lexeme ∨ ∃ token, first = .ok token ∧ ComesTo rest lexeme := by
  constructor
  · rintro ⟨front, back, h⟩
    cases front with
    | nil =>
      cases h
      exact .inl rfl
    | cons token front =>
      cases h
      exact .inr ⟨token, rfl, front, back, rfl⟩
  · rintro (rfl | ⟨token, rfl, front, back, rfl⟩)
    · exact ⟨[], rest, rfl⟩
    · exact ⟨token :: front, back, rfl⟩

namespace Scan

/-- A token is collected if there are only tokens in front of it. -/
theorem mem_tokens_ofLexemes_iff {found : List Lexeme} {token : Token} :
    token ∈ (ofLexemes found).tokens ↔ ComesTo found (.ok token) := by
  induction found with
  | nil => exact iff_of_false List.not_mem_nil (not_comesTo_nil _)
  | cons lexeme rest ih =>
    rw [comesTo_cons_iff]
    cases lexeme with
    | error illegal => simp [ofLexemes]
    | ok first => simp [ofLexemes, ih, eq_comm]

/-- And an illegal character ends the reading if there are only tokens in front of it. -/
theorem illegal?_ofLexemes_eq_some_iff {found : List Lexeme} {illegal : IllegalCharacter} :
    (ofLexemes found).illegal? = some illegal ↔ ComesTo found (.error illegal) := by
  induction found with
  | nil => exact iff_of_false (Option.some_ne_none illegal).symm (not_comesTo_nil _)
  | cons lexeme rest ih =>
    rw [comesTo_cons_iff]
    cases lexeme with
    | error first => simp [ofLexemes]
    | ok first => simp [ofLexemes, ih]

/-- The tokens are lexemes, in their order. -/
theorem sublist_tokens_ofLexemes (found : List Lexeme) :
    ((ofLexemes found).tokens.map Except.ok).Sublist found := by
  induction found with
  | nil => exact .slnil
  | cons lexeme rest ih =>
    cases lexeme with
    | error illegal => exact List.nil_sublist _
    | ok token => exact ih.cons_cons _

theorem pairwise_tokens {found : List Lexeme}
    (h : found.Pairwise fun a b => a.position < b.position) :
    (ofLexemes found).tokens.Pairwise fun a b => a.index < b.index := by
  have hmap := h.sublist (sublist_tokens_ofLexemes found)
  rwa [List.pairwise_map] at hmap

end Scan

/-! ## Lexemes by positions -/

/-- The character may stand in a text: it is ignored or one that formulas are written with. -/
def IsLegal (c : Char) : Prop := isIgnorable c = true ∨ IsTokenCharacter c

/-- Among some characters with an illegal one there is a first illegal one. -/
theorem exists_first_not_isLegal {chars : List Char} {d : Char} (hmem : d ∈ chars)
    (hd : ¬IsLegal d) :
    ∃ before c after, chars = before ++ c :: after ∧ ¬IsLegal c ∧ ∀ b ∈ before, IsLegal b := by
  induction chars with
  | nil => cases hmem
  | cons c rest ih =>
    by_cases hc : IsLegal c
    · have hrest : d ∈ rest := (List.mem_cons.1 hmem).resolve_left fun heq => hd (heq ▸ hc)
      obtain ⟨before, e, after, rfl, he, hbefore⟩ := ih hrest
      exact ⟨c :: before, e, after, rfl, he, List.forall_mem_cons.2 ⟨hc, hbefore⟩⟩
    · exact ⟨[], c, rest, rfl, hc, fun b hb => absurd hb List.not_mem_nil⟩

/-- The number of characters that are tokens. -/
def countTokens (chars : List Char) : Nat := chars.countP fun c => (Token.Kind.ofChar? c).isSome

theorem countTokens_append (front back : List Char) :
    countTokens (front ++ back) = countTokens front + countTokens back :=
  List.countP_append

theorem countTokens_singleton {c : Char} (h : ¬IsLegal c) : countTokens [c] = 0 := by
  rw [countTokens, List.countP_singleton, if_neg]
  exact fun hsome => h (.inr (Token.Kind.isSome_ofChar?_iff.1 hsome))

/-- Where all is legal, the lexemes are as many as the tokens. -/
theorem length_lexemesFrom {chars : List Char} (h : ∀ c ∈ chars, IsLegal c) (line : Int)
    (index : Nat) : (lexemesFrom line index chars).length = countTokens chars := by
  rw [lexemesFrom_eq_map, List.length_map, ← List.length_map Prod.fst, map_fst_placesFrom,
    ← List.countP_eq_length_filter, countTokens]
  refine List.countP_congr fun c hc => ?_
  rw [Token.Kind.isSome_ofChar?_iff, Bool.not_eq_true']
  exact ⟨fun hignored => (h c hc).resolve_left (by simp [hignored]), isIgnorable_eq_false⟩

theorem Lexeme.ofChar_eq_error_iff {line : Int} {index : Nat} {c : Char}
    {illegal : IllegalCharacter} :
    Lexeme.ofChar line index c = .error illegal ↔
      ¬IsTokenCharacter c ∧ illegal.character = c ∧ illegal.position = index := by
  rw [← Token.Kind.isSome_ofChar?_iff, Lexeme.ofChar]
  cases Token.Kind.ofChar? c with
  | some kind => simp
  | none =>
    obtain ⟨character, position⟩ := illegal
    simp [eq_comm]

theorem position_ofChar (line : Int) (index : Nat) (c : Char) :
    (Lexeme.ofChar line index c).position = index := by
  rw [Lexeme.ofChar]
  split <;> rfl

/-- Lexemes stand one behind the other. -/
theorem pairwise_lexemesFrom (line : Int) (index : Nat) (chars : List Char) :
    (lexemesFrom line index chars).Pairwise fun a b => a.position < b.position := by
  rw [lexemesFrom_eq_map, List.pairwise_map]
  refine ((pairwise_zipIdx index chars).filter _).imp fun h => ?_
  rwa [position_ofChar, position_ofChar]

namespace Lexer

/-! ## Readings -/

/-- What is read does not depend on the lexer. -/
theorem snd_read (lexer : Lexer) (line : Int) (index : Nat) (chars : List Char)
    (limit? : Option Nat) :
    (lexer.read line index chars limit?).2 =
      Scan.ofLexemes (asked limit? (lexemesFrom line index chars)) := by
  induction chars generalizing index limit? with
  | nil => cases limit? <;> simp [read, asked, lexemesFrom, Scan.ofLexemes]
  | cons c rest ih =>
    rw [read]
    by_cases hlimit : limit? = some 0
    · rw [if_pos hlimit, hlimit, asked_zero]
      rfl
    · rw [if_neg hlimit, lexemesFrom]
      cases isIgnorable c with
      | true => exact ih (index + 1) limit?
      | false =>
        rw [if_neg Bool.false_ne_true, if_neg Bool.false_ne_true, asked_cons hlimit,
          Lexeme.ofChar]
        cases Token.Kind.ofChar? c with
        | some kind => simp [ih, Scan.ofLexemes]
        -- the lexer was moved to the place of the character before it refuses it
        | none => rfl

/-- The reading of the text on its own, without a lexer. -/
def Request.scan (request : Request) : Scan :=
  Propositional.tokenize request.text request.line request.index request.limit?

/-- Whatever a lexer remembers, it reads the text as the lexemes have it. -/
theorem snd_tokenize (lexer : Lexer) (request : Request) :
    (lexer.tokenize request).2 = request.scan := by
  rw [tokenize, Request.scan, tokenize_eq]
  by_cases hlimit : request.limit? = some 0
  · rw [if_pos hlimit, hlimit, asked_zero]
    rfl
  · rw [if_neg hlimit, snd_read]

namespace Request

/-- The characters that a reading has passed when it is at this position. -/
def passed (request : Request) (i : Nat) : List Char :=
  (request.text.toList.drop request.index).take (i - request.index)

/-- The reading comes to this position: there is no illegal character on the way, and more
tokens are asked for than there are. -/
structure Reaches (request : Request) (i : Nat) : Prop where
  behind : request.index ≤ i
  legal : ∀ c ∈ request.passed i, IsLegal c
  wanted : ∀ limit ∈ request.limit?, countTokens (request.passed i) < limit

theorem passed_eq {request : Request} {before rest : List Char}
    (h : request.text.toList.drop request.index = before ++ rest) :
    request.passed (request.index + before.length) = before := by
  rw [passed, h, Nat.add_sub_cancel_left, List.take_left]

/-- A reading comes to a lexeme at the positions that it reaches. -/
theorem comesTo_iff {request : Request} {lexeme : Lexeme} :
    ComesTo (asked request.limit? (lexemesFrom request.line request.index
        (request.text.toList.drop request.index))) lexeme ↔
      ∃ i c, request.Reaches i ∧ request.text.toList[i]? = some c ∧ isIgnorable c = false ∧
        Lexeme.ofChar request.line i c = lexeme := by
  constructor
  · rintro ⟨front, h⟩
    obtain ⟨hlimit, back, hfound⟩ := asked_eq_append_cons_iff.1 h
    obtain ⟨before, c, after, hchars, hc, rfl, hbefore⟩ := exists_of_lexemesFrom_eq hfound
    have hpassed := passed_eq hchars
    have hlegal : ∀ c ∈ before, IsLegal c := (lexemesFrom_eq_map_ok_iff.1 hbefore).1
    refine ⟨request.index + before.length, c, ⟨Nat.le_add_right _ _, ?_, ?_⟩, ?_, hc, rfl⟩
    · rwa [hpassed]
    · rwa [hpassed, ← length_lexemesFrom hlegal request.line request.index, hbefore]
    · rw [← List.getElem?_drop, hchars]
      exact getElem?_append_cons_length before after c
  · rintro ⟨i, c, ⟨hbehind, hlegal, hwanted⟩, hi, hc, rfl⟩
    obtain ⟨k, rfl⟩ := Nat.exists_eq_add_of_le hbehind
    rw [← List.getElem?_drop] at hi
    obtain ⟨before, after, hchars, rfl⟩ := exists_append_cons_of_getElem? hi
    have hpassed := passed_eq hchars
    rw [hpassed] at hlegal hwanted
    refine ⟨tokensFrom request.line request.index before, asked_eq_append_cons_iff.2 ⟨?_, ?_⟩⟩
    · rwa [← lexemesFrom_eq_map_ok_iff.2 ⟨hlegal, rfl⟩, length_lexemesFrom hlegal]
    · rw [hchars, lexemesFrom_append_cons _ _ _ _ hc, lexemesFrom_eq_map_ok_iff.2 ⟨hlegal, rfl⟩]
      exact ⟨_, rfl⟩

theorem mem_tokens_iff {request : Request} {token : Token} :
    token ∈ request.scan.tokens ↔
      request.Reaches token.index ∧ token.line = request.line ∧
        ∃ c, request.text.toList[token.index]? = some c ∧ token.kind.WrittenAs c := by
  rw [scan, tokenize_eq, Scan.mem_tokens_ofLexemes_iff, comesTo_iff]
  simp only [Lexeme.ofChar_eq_ok_iff]
  constructor
  · rintro ⟨i, c, hreaches, hi, -, hkind, rfl, hline⟩
    exact ⟨hreaches, hline, c, hi, hkind⟩
  · rintro ⟨hreaches, hline, c, hi, hkind⟩
    exact ⟨token.index, c, hreaches, hi, isIgnorable_eq_false hkind.isTokenCharacter, hkind, rfl,
      hline⟩

theorem illegal?_eq_some_iff {request : Request} {illegal : IllegalCharacter} :
    request.scan.illegal? = some illegal ↔
      request.Reaches illegal.position ∧
        request.text.toList[illegal.position]? = some illegal.character ∧
        ¬IsLegal illegal.character := by
  rw [scan, tokenize_eq, Scan.illegal?_ofLexemes_eq_some_iff, comesTo_iff]
  simp only [Lexeme.ofChar_eq_error_iff, IsLegal, not_or, Bool.not_eq_true]
  constructor
  · rintro ⟨i, c, hreaches, hi, hc, hchar, rfl, rfl⟩
    exact ⟨hreaches, hi, hc, hchar⟩
  · rintro ⟨hreaches, hi, hc, hchar⟩
    exact ⟨_, _, hreaches, hi, hc, hchar, rfl, rfl⟩

/-- A reading fails when an illegal character is there, with fewer tokens in front of it than
are asked for. -/
theorem exists_illegal_iff {request : Request} :
    (∃ illegal, request.scan.illegal? = some illegal) ↔
      ∃ i c, request.index ≤ i ∧ request.text.toList[i]? = some c ∧ ¬IsLegal c ∧
        ∀ limit ∈ request.limit?, countTokens (request.passed i) < limit := by
  simp only [illegal?_eq_some_iff]
  constructor
  · rintro ⟨illegal, ⟨hbehind, -, hwanted⟩, hi, hc⟩
    exact ⟨_, _, hbehind, hi, hc, hwanted⟩
  · rintro ⟨i, c, hbehind, hi, hc, hwanted⟩
    obtain ⟨k, rfl⟩ := Nat.exists_eq_add_of_le hbehind
    rw [← List.getElem?_drop] at hi
    obtain ⟨before, after, hchars, rfl⟩ := exists_append_cons_of_getElem? hi
    rw [passed_eq hchars] at hwanted
    -- there may be others in front of it, and the reading fails at the first
    obtain ⟨front, d, back, hsplit, hd, hlegal⟩ :=
      exists_first_not_isLegal (List.mem_append_right before (List.mem_singleton_self c)) hc
    have hdrop : request.text.toList.drop request.index = front ++ d :: (back ++ after) := by
      rw [hchars, List.append_cons, hsplit, List.append_assoc, List.cons_append]
    have hle : countTokens front ≤ countTokens before := by
      have hcount := congrArg countTokens hsplit
      rw [countTokens_append, countTokens_append, countTokens_singleton hc] at hcount
      omega
    have hpassed := passed_eq hdrop
    refine ⟨⟨d, request.index + front.length⟩, ⟨Nat.le_add_right _ _, ?_, ?_⟩, ?_, hd⟩
    · rwa [hpassed]
    · rw [hpassed]
      exact fun limit hlimit => Nat.lt_of_le_of_lt hle (hwanted limit hlimit)
    · rw [← List.getElem?_drop, hdrop]
      exact getElem?_append_cons_length front (back ++ after) d

end Request

/-- **What a lexer reads.** Whatever a lexer remembers, and whatever it has read on top of
that, to the end, up to an illegal character or not even so far: a reading has one token
for each position that it reaches and that holds a character of a formula, in the order of
these positions. Each token is of the kind of its character, covers this one character, and
has the line number of the request, line feeds or not.

The reading ends with an illegal character exactly when it reaches one, and that is when
there is one from its first position on, with fewer tokens in front of it than are asked
for. The complaint names the character and its position in the whole text. -/
theorem reads_reached_positions (lexer : Lexer) (history : List Request) (request : Request) :
    let scan := ((lexer.afterReadings history).tokenize request).2
    (scan.tokens.Pairwise fun a b => a.index < b.index) ∧
    (∀ i, (∃ token ∈ scan.tokens, token.index = i) ↔
      request.Reaches i ∧ ∃ c, request.text.toList[i]? = some c ∧ IsTokenCharacter c) ∧
    (∀ token ∈ scan.tokens,
      (∃ c, request.text.toList[token.index]? = some c ∧ token.kind.WrittenAs c) ∧
      token.span = ⟨token.index, token.index + 1⟩ ∧ token.stop = token.index + 1 ∧
      token.line = request.line) ∧
    (∀ illegal, scan.illegal? = some illegal ↔
      request.Reaches illegal.position ∧
        request.text.toList[illegal.position]? = some illegal.character ∧
        ¬IsLegal illegal.character) ∧
    ((∃ illegal, scan.illegal? = some illegal) ↔
      ∃ i c, request.index ≤ i ∧ request.text.toList[i]? = some c ∧ ¬IsLegal c ∧
        ∀ limit ∈ request.limit?, countTokens (request.passed i) < limit) ∧
    ∀ illegal, scan.illegal? = some illegal →
      illegal.message = "Illegal character '" ++ illegal.character.toString ++
        "' encountered at position " ++ toString illegal.position := by
  intro scan
  have hscan : scan = request.scan := snd_tokenize _ request
  rw [hscan]
  refine ⟨?_, fun i => ?_, fun token htoken => ?_, fun _ => Request.illegal?_eq_some_iff,
    Request.exists_illegal_iff, fun _ _ => rfl⟩
  · rw [Request.scan, tokenize_eq]
    exact Scan.pairwise_tokens ((pairwise_lexemesFrom _ _ _).sublist (asked_sublist _ _))
  · constructor
    · rintro ⟨token, htoken, rfl⟩
      obtain ⟨hreaches, -, c, hi, hkind⟩ := Request.mem_tokens_iff.1 htoken
      exact ⟨hreaches, c, hi, hkind.isTokenCharacter⟩
    · rintro ⟨hreaches, c, hi, hc⟩
      obtain ⟨kind, hkind⟩ := Option.isSome_iff_exists.1 (Token.Kind.isSome_ofChar?_iff.2 hc)
      exact ⟨⟨kind, i, request.line⟩, Request.mem_tokens_iff.2 ⟨hreaches, rfl, c, hi,
        Token.Kind.ofChar?_eq_some_iff.1 hkind⟩, rfl⟩
  · obtain ⟨-, hline, hcharacter⟩ := Request.mem_tokens_iff.1 htoken
    exact ⟨hcharacter, rfl, rfl, hline⟩

/-- A line feed is passed like a blank, and the dollar sign is met because a second token is
asked for. -/
example (lexer : Lexer) : (lexer.tokenize ⟨"(\n q$", 1, 1, some 2⟩).2 =
    ⟨[⟨.atom, 3, 1⟩], some ⟨'$', 4⟩⟩ := rfl

end Lexer

end Propositional
