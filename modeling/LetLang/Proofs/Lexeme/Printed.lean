import LetLang.Proofs.Lexeme.Gap

/-!
Tokens that are written down with a blank behind each are read back as they were. Whatever a source
text is, its tokens can be written down so.
-/
namespace LetLang

namespace Lexeme

inductive Numeral : List Char → Prop
  | whole {digits : List Char} (nonempty : digits ≠ []) (inside : ∀ c ∈ digits, IsDigit c) :
      Numeral digits
  | fraction {digits decimals : List Char} (nonempty : digits ≠ [])
      (inside : ∀ c ∈ digits, IsDigit c) (more : decimals ≠ [])
      (behind : ∀ c ∈ decimals, IsDigit c) : Numeral (digits ++ '.' :: decimals)

theorem Numeral.opens {chars : List Char} (numeral : Numeral chars) :
    ∃ c rest, chars = c :: rest ∧ IsDigit c := by
  cases numeral with
  | whole nonempty inside =>
      rcases List.exists_cons_of_ne_nil nonempty with ⟨c, rest, rfl⟩
      exact ⟨c, rest, rfl, inside c List.mem_cons_self⟩
  | fraction nonempty inside more behind =>
      rcases List.exists_cons_of_ne_nil nonempty with ⟨c, rest, rfl⟩
      exact ⟨c, _, rfl, inside c List.mem_cons_self⟩

end Lexeme

namespace Token

open Lexeme (Follows FollowsFraction IsBlank IsDigit IsNamePart IsNameStart Numeral Stands marks
  operators tokenizeFrom_blanks tokenizeFrom_stands)
open Text (byteLength)

inductive Writable : TokenKind × String → Prop
  | letKeyword : Writable (.letKeyword, "let")
  | asKeyword : Writable (.asKeyword, "as")
  | mark {c : Char} {kind : TokenKind} (listed : (c, kind) ∈ marks) :
      Writable (kind, String.singleton c)
  | name {c : Char} {others : List Char} (starts : IsNameStart c)
      (inside : ∀ d ∈ others, IsNamePart d)
      (free : String.ofList (c :: others) ≠ "let" ∧ String.ofList (c :: others) ≠ "as") :
      Writable (.identifier, String.ofList (c :: others))
  | operator {c : Char} (listed : c ∈ operators) : Writable (.identifier, String.singleton c)
  | number {chars : List Char} (numeral : Numeral chars) : Writable (.number, String.ofList chars)
  | string {chars : List Char} (inside : '"' ∉ chars) : Writable (.string, String.ofList chars)

def written (content : TokenKind × String) : List Char :=
  match content.1 with
  | .string => '"' :: (content.2.toList ++ ['"'])
  | _ => content.2.toList

def print (contents : List (TokenKind × String)) : String :=
  String.ofList (contents.flatMap fun content => written content ++ [' '])

def placed (file : String) (offset : Nat) (content : TokenKind × String) : Token :=
  ⟨content.1, content.2, ⟨.ofNat offset, file⟩,
    ⟨.ofNat (offset + byteLength (written content)), file⟩⟩

def placedFrom (file : String) (offset : Nat) : List (TokenKind × String) → List Token
  | [] => []
  | content :: contents =>
    placed file offset content ::
      placedFrom file (offset + byteLength (written content) + 1) contents

/-- A token takes exactly the bytes that are printed for it behind those in front. -/
structure PrintedBehind (file : String) (front : List (TokenKind × String)) (token : Token) :
    Prop where
  start : token.span.start.offset.toNat = (print front).utf8ByteSize
  stop : token.span.stop.offset.toNat =
    (print front).utf8ByteSize + byteLength (written token.content)
  startFile : token.span.start.file = file
  stopFile : token.span.stop.file = file

variable {file : String} {offset : Nat} {before tokens : List Token} {chars rest : List Char}
variable {content : TokenKind × String} {contents front back : List (TokenKind × String)}
variable {lexeme : Lexeme}

theorem stands_of_numeral (numeral : Numeral chars) : Stands [' '] ⟨.number, chars⟩ := by
  have digitless : ¬Follows IsDigit [' '] := by simp [Follows, IsDigit]
  cases numeral with
  | whole nonempty inside =>
      have unbroken : ¬FollowsFraction [' '] := by simp [FollowsFraction]
      exact .whole nonempty inside digitless unbroken (List.cons_ne_nil _ _)
  | fraction nonempty inside more behind =>
      exact .fraction nonempty inside more behind digitless (List.cons_ne_nil _ _)

theorem stands_of_word {c : Char} {others : List Char} (starts : IsNameStart c)
    (inside : ∀ d ∈ others, IsNamePart d) : Stands [' '] ⟨.word, c :: others⟩ := by
  refine .word starts inside ?_
  simp [Follows, IsNamePart, IsNameStart, IsDigit]

theorem written_mark {c : Char} {kind : TokenKind} (listed : (c, kind) ∈ marks) :
    written (kind, String.singleton c) = [c] := by
  have known : ∀ entry ∈ marks, entry.2 ≠ .string := by decide
  simp [written, known _ listed]

theorem Writable.stands (writable : Writable content) :
    ∃ lexeme, Stands [' '] lexeme ∧ lexeme.text = written content ∧
      lexeme.token? = some content := by
  cases writable with
  | letKeyword =>
      have stands : Stands [' '] ⟨.word, ['l', 'e', 't']⟩ :=
        stands_of_word (by simp [IsNameStart]) (by simp [IsNamePart, IsNameStart])
      exact ⟨_, stands, rfl, rfl⟩
  | asKeyword =>
      have stands : Stands [' '] ⟨.word, ['a', 's']⟩ :=
        stands_of_word (by simp [IsNameStart]) (by simp [IsNamePart, IsNameStart])
      exact ⟨_, stands, rfl, rfl⟩
  | mark listed =>
      refine ⟨_, .mark listed, ?_, ?_⟩
      · exact (written_mark listed).symm
      · simp [Lexeme.token?, (Lexeme.mark_symbol listed).2]
  | name starts inside free =>
      refine ⟨_, stands_of_word starts inside, ?_, ?_⟩
      · simp [written]
      · simp only [Lexeme.token?, if_neg free.1, if_neg free.2]
  | operator listed =>
      refine ⟨_, .operator listed ?_, ?_, ?_⟩
      · simp [Follows]
      · simp [written]
      · simp [Lexeme.token?]
  | number numeral =>
      refine ⟨_, stands_of_numeral numeral, ?_, ?_⟩
      · simp [written]
      · simp [Lexeme.token?]
  | string inside =>
      refine ⟨_, .string inside, ?_, ?_⟩
      · simp [written]
      · simp [Lexeme.token?]

theorem writable_of_stands (stands : Stands rest lexeme) (spelled : lexeme.token? = some content) :
    Writable content := by
  cases stands with
  | blanks => cases spelled
  | lineComment => cases spelled
  | blockComment => cases spelled
  | @word c others starts inside ends =>
      dsimp only [Lexeme.token?] at spelled
      split at spelled
      · rename_i keyword
        cases spelled
        rw [keyword]
        exact .letKeyword
      · split at spelled
        · rename_i keyword
          cases spelled
          rw [keyword]
          exact .asKeyword
        · rename_i first second
          cases spelled
          exact .name starts inside ⟨first, second⟩
  | whole nonempty inside =>
      cases spelled
      exact .number (.whole nonempty inside)
  | fraction nonempty inside more behind =>
      cases spelled
      exact .number (.fraction nonempty inside more behind)
  | string inside =>
      simp only [Lexeme.token?, List.tail_cons, List.dropLast_concat] at spelled
      cases spelled
      exact .string inside
  | mark listed =>
      simp only [Lexeme.token?, List.head?_cons, Option.bind_some, (Lexeme.mark_symbol listed).2,
        Option.map_some] at spelled
      cases spelled
      exact .mark listed
  | operator listed =>
      cases spelled
      exact .operator listed

theorem tokenizeFrom_placed (stands : Stands rest lexeme) (text : lexeme.text = written content)
    (spelled : lexeme.token? = some content) :
    tokenizeFrom file offset before (written content ++ rest) =
      tokenizeFrom file (offset + byteLength (written content))
        (placed file offset content :: before) rest := by
  rw [← text, tokenizeFrom_stands stands, spelled, placed, ← text]
  rfl

theorem tokenizeFrom_written (writable : Writable content) (rest : List Char) :
    tokenizeFrom file offset before (written content ++ ' ' :: rest) =
      tokenizeFrom file (offset + byteLength (written content) + 1)
        (placed file offset content :: before) rest := by
  rcases writable.stands with ⟨lexeme, stands, text, spelled⟩
  have blank : Follows IsBlank (' ' :: rest) := ⟨' ', rfl, .inl rfl⟩
  have marked : lexeme.token? ≠ none := spelled ▸ Option.some_ne_none _
  have alone : Stands ([] ++ [' ']) lexeme := stands
  have here : Stands ([] ++ ' ' :: rest) lexeme := alone.before_blank marked blank
  have passed : ∀ c ∈ [' '], IsBlank c := by simp [IsBlank]
  exact (tokenizeFrom_placed here text spelled).trans (tokenizeFrom_blanks passed rest)

theorem utf8ByteSize_print_cons (content : TokenKind × String)
    (contents : List (TokenKind × String)) :
    (print (content :: contents)).utf8ByteSize =
      byteLength (written content) + 1 + (print contents).utf8ByteSize := by
  simp only [print, Text.utf8ByteSize_ofList, List.flatMap_cons, Text.byteLength_append]
  rfl

theorem tokenizeFrom_print (writable : ∀ content ∈ contents, Writable content) (rest : List Char) :
    tokenizeFrom file offset before ((print contents).toList ++ rest) =
      tokenizeFrom file (offset + (print contents).utf8ByteSize)
        ((placedFrom file offset contents).reverse ++ before) rest := by
  induction contents generalizing offset before with
  | nil => rfl
  | cons content contents ih =>
      rw [List.forall_mem_cons] at writable
      have front : (print (content :: contents)).toList ++ rest =
          written content ++ ' ' :: ((print contents).toList ++ rest) := by
        simp [print]
      calc
        _ = tokenizeFrom file (offset + byteLength (written content) + 1)
            (placed file offset content :: before) ((print contents).toList ++ rest) := by
          rw [front, tokenizeFrom_written writable.1]
        _ = tokenizeFrom file
            (offset + byteLength (written content) + 1 + (print contents).utf8ByteSize)
            ((placedFrom file (offset + byteLength (written content) + 1) contents).reverse ++
              placed file offset content :: before) rest := ih writable.2
        _ = _ := by
          rw [utf8ByteSize_print_cons, placedFrom, List.reverse_cons, List.append_assoc,
            List.singleton_append, ← Nat.add_assoc, ← Nat.add_assoc]

theorem map_content_placedFrom :
    (placedFrom file offset contents).map Token.content = contents := by
  induction contents generalizing offset with
  | nil => rfl
  | cons content contents ih =>
      rw [placedFrom, List.map_cons, ih]
      rfl

theorem getElem?_placedFrom :
    (placedFrom file offset (front ++ content :: back))[front.length]? =
      some (placed file (offset + (print front).utf8ByteSize) content) := by
  induction front generalizing offset with
  | nil => rfl
  | cons first front ih =>
      have behind : offset + byteLength (written first) + 1 + (print front).utf8ByteSize =
          offset + (print (first :: front)).utf8ByteSize := by
        rw [utf8ByteSize_print_cons]
        omega
      rw [List.cons_append, placedFrom, List.length_cons, List.getElem?_cons_succ, ih, behind]

theorem printedBehind_placed
    (short : (print (front ++ content :: back)).utf8ByteSize < 2 ^ 32) :
    PrintedBehind file front (placed file (print front).utf8ByteSize content) := by
  have total : (print (front ++ content :: back)).utf8ByteSize =
      (print front).utf8ByteSize + (print (content :: back)).utf8ByteSize := by
    simp [print, Text.utf8ByteSize_ofList]
  rw [total, utf8ByteSize_print_cons] at short
  have starts : (print front).utf8ByteSize < 2 ^ 32 := by omega
  have stops : (print front).utf8ByteSize + byteLength (written content) < 2 ^ 32 := by omega
  constructor
  · exact UInt32.toNat_ofNat_of_lt' starts
  · exact UInt32.toNat_ofNat_of_lt' stops
  · rfl
  · rfl

theorem writable_of_tokenizeFrom (known : ∀ token ∈ before, Writable token.content)
    (read : tokenizeFrom file offset before chars = .ok tokens) :
    ∀ token ∈ tokens, Writable token.content := by
  fun_induction tokenizeFrom file offset before chars with
  | case1 offset before =>
      cases read
      simpa using known
  | case2 => cases read
  | case3 offset before c rest piece scanned ih =>
      refine ih (fun token member => ?_) read
      rcases List.mem_append.mp member with made | earlier
      · rcases Lexeme.scan_eq_ok.mp scanned with ⟨lexeme, after, stands, _, rfl⟩
        rcases Option.map_eq_some_iff.mp (Option.mem_toList.mp made) with ⟨spelled, marked, rfl⟩
        exact writable_of_stands stands marked
      · exact known token earlier

/-- Tokens that can be written are read back with their kinds and values, each from the bytes that
were printed for it where these can be counted; and all that is ever read can be written. -/
theorem tokenize_print (file? : Option String) :
    (∀ contents, (∀ content ∈ contents, Writable content) →
      ∃ read, tokenize (print contents) file? = .ok read ∧ read.map Token.content = contents ∧
        ((print contents).utf8ByteSize < 2 ^ 32 →
          ∀ front content back, contents = front ++ content :: back →
            ∃ token, read[front.length]? = some token ∧
              PrintedBehind (file?.getD unnamedFile) front token)) ∧
    ∀ source other? tokens, tokenize source other? = .ok tokens →
      (∀ token ∈ tokens, Writable token.content) ∧
        ∃ read, tokenize (print (tokens.map Token.content)) file? = .ok read ∧
          read.map Token.content = tokens.map Token.content := by
  have back : ∀ contents, (∀ content ∈ contents, Writable content) →
      tokenize (print contents) file? = .ok (placedFrom (file?.getD unnamedFile) 0 contents) := by
    intro contents writable
    rw [tokenize, ← List.append_nil (print contents).toList, tokenizeFrom_print writable,
      tokenizeFrom, List.append_nil, List.reverse_reverse]
  constructor
  · intro contents writable
    refine ⟨_, back contents writable, map_content_placedFrom, ?_⟩
    rintro short front content back rfl
    refine ⟨_, getElem?_placedFrom, ?_⟩
    rw [Nat.zero_add]
    exact printedBehind_placed short
  · intro source other? tokens read
    have writable := writable_of_tokenizeFrom (List.forall_mem_nil _) read
    refine ⟨writable, _, back _ ?_, map_content_placedFrom⟩
    intro content member
    rcases List.mem_map.mp member with ⟨token, present, rfl⟩
    exact writable token present

example : print [(.identifier, "/"), (.string, "/* as"), (.asKeyword, "as")] =
    "/ \"/* as\" as " := by
  decide

end Token
end LetLang
