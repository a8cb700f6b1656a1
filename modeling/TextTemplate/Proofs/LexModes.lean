import TextTemplate.Proofs.Alignment.Compiler
import TextTemplate.Proofs.Fragments.Scanner
import TextTemplate.Proofs.Reports

/-!
# Strict and lax compiling

The two modes run the same parsers over the same pieces of markup and differ only in what the lexer
does with a character that starts no token. So lax compiling makes of a source what strict
compiling makes of it, unless strict compiling reports such a character, and it never reports one
itself (`compile_lax_eq_strict`). `Loosens` is what every action of the compiler keeps.
-/

namespace TextTemplate

/-- The cause is a character that starts no token; a quote without a second one is such. -/
def ParseError.Cause.IsStray : ParseError.Cause → Prop
  | .lexical .unterminatedString | .lexical (.unexpectedCharacter _) => True
  | _ => False

theorem ParseError.Cause.OfTokens.not_isStray {cause : ParseError.Cause}
    (ofTokens : cause.OfTokens) : ¬ cause.IsStray := by
  cases cause with
  | lexical | unterminatedTag | unknownTag => cases ofTokens
  | unexpectedToken | invalidNumber | malformed => exact id

/-! ## The lexer -/

namespace Token

theorem isStray_strayCause (c : Char) : ParseError.Cause.IsStray (.lexical (strayCause c)) := by
  unfold strayCause
  split <;> trivial

theorem exists_lexFrom_lax (offset : Nat) (cs : List Char) :
    ∃ tokens, lexFrom .lax offset cs = .ok tokens := by
  fun_induction lexFrom .lax offset cs with
  | case1 offset => exact ⟨_, rfl⟩
  | case2 offset c rest isGap ih => exact ih
  | case3 offset c rest _ kind length _ text stop error failed ih =>
    obtain ⟨tokens, lexed⟩ := ih
    rw [failed] at lexed
    cases lexed
  | case4 => exact ⟨_, rfl⟩
  | case5 => contradiction
  | case6 offset c rest _ _ _ ih => exact ih

/-- What strict lexing accepts, lax lexing reads the same; what it reports is a stray character. -/
theorem lexFrom_strict (offset : Nat) (cs : List Char) :
    lexFrom .lax offset cs = lexFrom .strict offset cs ∨
      ∃ error, lexFrom .strict offset cs = .error error ∧
        ParseError.Cause.IsStray (.lexical error.cause) := by
  fun_induction lexFrom .strict offset cs with
  | case1 offset => exact .inl (by rw [lexFrom])
  | case2 offset c rest isGap ih =>
    rw [lexFrom, if_pos isGap]
    exact ih
  | case3 offset c rest notGap kind length found text stop error failed ih =>
    rw [failed] at ih
    obtain same | ⟨error', same, stray⟩ := ih
    · obtain ⟨tokens, lexed⟩ := exists_lexFrom_lax stop (rest.drop (length - 1))
      rw [lexed] at same
      cases same
    · cases same
      exact .inr ⟨error, rfl, stray⟩
  | case4 offset c rest notGap kind length found text stop tokens lexed ih =>
    rw [lexed] at ih
    obtain same | ⟨error, same, -⟩ := ih
    · left
      rw [lexFrom, if_neg notGap]
      simp only [found]
      rw [same]
    · cases same
  | case5 offset c rest notGap none => exact .inr ⟨_, rfl, isStray_strayCause c⟩
  | case6 => contradiction

end Token

/-! ## Actions in the two modes -/

/-- The results of one action in strict and in lax mode: the same, unless the strict one is a stray
character, and the lax one never is. -/
structure Loosens {α : Type} (strict lax : Except ParseError α) : Prop where
  same : lax = strict ∨ ∃ error, strict = .error error ∧ error.cause.IsStray
  notStray : ∀ error, lax = .error error → ¬ error.cause.IsStray

namespace Loosens

variable {α β : Type}

theorem ok (value : α) : Loosens (.ok value) (.ok value) :=
  ⟨.inl rfl, nofun⟩

theorem error {error : ParseError} (notStray : ¬ error.cause.IsStray) :
    Loosens (.error error : Except ParseError α) (.error error) :=
  ⟨.inl rfl, by rintro _ ⟨⟩; exact notStray⟩

/-- What strict mode accepts, lax mode accepts with the same result. -/
theorem of_ok {strict lax : Except ParseError α} {value : α} (loosens : Loosens strict lax)
    (accepted : strict = .ok value) : lax = .ok value := by
  obtain same | ⟨error, failed, -⟩ := loosens.same
  · exact same.trans accepted
  · cases accepted.symm.trans failed

theorem bind {strict lax : Except ParseError α} {next next' : α → Except ParseError β}
    (first : Loosens strict lax) (later : ∀ value, Loosens (next value) (next' value)) :
    Loosens (strict >>= next) (lax >>= next') := by
  constructor
  · obtain rfl | ⟨error, rfl, stray⟩ := first.same
    · cases lax with
      | error error => exact .inl rfl
      | ok value => exact (later value).same
    · exact .inr ⟨error, rfl, stray⟩
  · intro error failed
    cases lax with
    | error failure =>
      cases failed
      exact first.notStray _ rfl
    | ok value => exact (later value).notStray error failed

theorem map {strict lax : Except ParseError α} (f : α → β) (first : Loosens strict lax) :
    Loosens (strict >>= fun value => pure (f value)) (lax >>= fun value => pure (f value)) :=
  first.bind fun value => ok (f value)

theorem foldlM {step step' : β → α → Except ParseError β}
    (steps : ∀ state value, Loosens (step state value) (step' state value)) (values : List α)
    (state : β) : Loosens (values.foldlM step state) (values.foldlM step' state) := by
  induction values generalizing state with
  | nil => exact ok state
  | cons value values ih => exact (steps state value).bind ih

end Loosens

open Loosens

theorem loosens_ofMarkup (markup : String) (base : Nat) :
    Loosens (Cursor.ofMarkup .strict markup base) (Cursor.ofMarkup .lax markup base) := by
  unfold Cursor.ofMarkup Token.lex
  constructor
  · obtain same | ⟨error, failed, stray⟩ := Token.lexFrom_strict _ (Text.trim markup.toList)
    · rw [same]
      exact .inl rfl
    · rw [failed]
      exact .inr ⟨_, rfl, stray⟩
  · intro error failed
    obtain ⟨tokens, lexed⟩ := Token.exists_lexFrom_lax _ (Text.trim markup.toList)
    rw [lexed] at failed
    cases failed

theorem loosens_result {α : Type} {parser : Parser α} (reports : parser.Reports) (cursor : Cursor) :
    Loosens (parser.result cursor) (parser.result cursor) := by
  unfold Parser.result
  cases ran : parser.run cursor with
  | ok value last => exact ok value
  | error failure last => exact error (reports cursor failure last ran).not_isStray

theorem TagHead.loosens_read {α : Type} {parser : Parser α} (tag : TagHead)
    (reports : parser.Reports) : Loosens (tag.read .strict parser) (tag.read .lax parser) :=
  (loosens_ofMarkup _ _).bind (loosens_result reports)

variable {tags : TagTable}

theorem TagRule.loosens_readAssign (tag : TagHead) :
    Loosens (readAssign .strict tag) (readAssign .lax tag) := by
  unfold readAssign
  dsimp only
  split
  · exact error id
  · refine (TagHead.loosens_read _ (Parser.reports_parseTarget _)).bind fun name => ?_
    exact (TagHead.loosens_read _ (Parser.reports_parseWhole Parser.reports_pipeline)).map _

/-- The rules but those of the host, whose parsers may report what they like. -/
theorem TagRule.loosens_read {rule : TagRule} (noHost : ∀ host, rule ≠ .host host)
    (tag : TagHead) : Loosens (rule.read .strict tag) (rule.read .lax tag) := by
  have counter : Loosens (read.counterName .strict tag) (read.counterName .lax tag) :=
    (tag.loosens_read (Parser.reports_parseWhole (Parser.reports_expect _))).map _
  cases rule with
  | cond negate => exact (tag.loosens_read Parser.reports_condition).map _
  | case => exact (tag.loosens_read (Parser.reports_parseWhole Parser.reports_expr)).map _
  | loop => exact (tag.loosens_read Parser.reports_loop).map _
  | cycle => exact (tag.loosens_read (Parser.reports_cycle _)).map _
  | assign => exact (loosens_readAssign tag).map _
  | capture => exact (tag.loosens_read (Parser.reports_parseTarget _)).map _
  | increment => exact counter.map _
  | decrement => exact counter.map _
  | changed => exact ok _
  | comment => exact ok _
  | raw => exact ok _
  | interrupt signal =>
    simp only [read]
    split
    · exact ok _
    · exact error id
  | host run => exact absurd rfl (noHost run)

theorem BlockForm.loosens_resume (form : BlockForm) (name : String) (body : List Node)
    (tag : TagHead) :
    Loosens (form.resume .strict name body tag) (form.resume .lax name body tag) := by
  have misplaced (block : String) :
      Loosens (resume.misplaced tag block) (resume.misplaced tag block) :=
    error id
  cases form with
  | cond negate done condition =>
    simp only [resume]
    split
    · exact (tag.loosens_read Parser.reports_condition).map _
    · exact ok _
  | caseHead subject =>
    simp only [resume]
    split
    · exact (tag.loosens_read (Parser.reports_values _)).map _
    · exact ok _
  | caseWhen subject done values =>
    simp only [resume]
    split
    · exact (tag.loosens_read (Parser.reports_values _)).map _
    · exact ok _
  | loop header => exact ok _
  | condElse => exact misplaced name
  | caseElse => exact misplaced "case"
  | loopElse => exact error id
  | capture | changed | host => exact error id

theorem BodyEnd.loosens_check (bodyEnd : BodyEnd) (found : Option TagHead) :
    Loosens (bodyEnd.check found) (bodyEnd.check found) := by
  unfold check
  split
  · exact ok _
  · exact error id
  · exact error id
  · split
    · exact ok _
    · exact error id

namespace Compiler

theorem loosens_endBody (compiler : Compiler) (tag : TagHead) :
    Loosens (compiler.endBody .strict tag) (compiler.endBody .lax tag) := by
  refine (compiler.bodyEnd.loosens_check _).bind fun _ => ?_
  split
  · exact ok _
  · split
    · exact ok _
    · exact (BlockForm.loosens_resume _ _ _ _).map _

theorem loosens_readObject (fragment : Fragment) :
    Loosens (readObject .strict fragment) (readObject .lax fragment) :=
  (loosens_ofMarkup _ _).bind
    (loosens_result (Parser.reports_parseWhole Parser.reports_pipeline))

theorem loosens_step (builtIn : tags.BuiltIn) (compiler : Compiler) (fragment : Fragment) :
    Loosens (step tags .strict compiler fragment) (step tags .lax compiler fragment) := by
  unfold step
  split
  · exact ok _
  · split
    · exact ok _
    · exact (loosens_readObject fragment).map _
    · simp only
      split
      next rule known =>
        have noHost host : rule ≠ .host host := by
          rintro rfl
          exact builtIn _ host known
        exact (TagRule.loosens_read noHost _).map _
      next => exact loosens_endBody _ _

theorem loosens_finish (compiler : Compiler) : Loosens compiler.finish compiler.finish := by
  unfold finish
  split
  · exact error id
  · exact (compiler.bodyEnd.loosens_check none).map _

theorem loosens_run (builtIn : tags.BuiltIn) (fragments : List Fragment) :
    Loosens (run tags .strict fragments) (run tags .lax fragments) :=
  (Loosens.foldlM (loosens_step builtIn) fragments start).bind loosens_finish

end Compiler

theorem loosens_compile (builtIn : tags.BuiltIn) (source : String) :
    Loosens (compile tags .strict source) (compile tags .lax source) := by
  unfold compile
  cases scanned : Fragment.scan source with
  | ok fragments => exact Compiler.loosens_run builtIn fragments
  | error failure =>
    obtain ⟨delimiter, cause, -⟩ := Fragment.opener_of_scan scanned
    refine error ?_
    rw [ParseError.ofLexError, cause]
    exact id

/-- Nodes cannot be compared, but what a result makes of them can be. -/
theorem eq_error_of_map_eq_error {α β ε : Type} {result : Except ε α} (f : α → β) {error : ε}
    (same : result.map f = .error error) : result = .error error := by
  cases result with
  | ok value => cases same
  | error failure =>
    cases same
    rfl

/-- With built-in tags, lax compiling has the result of strict compiling, the tree or the error
with its span, unless strict compiling reports a character that starts no token or an unterminated
string. Lax compiling reports neither. -/
theorem compile_lax_eq_strict (builtIn : tags.BuiltIn) (source : String) :
    ((∀ error, compile tags .strict source = .error error → ¬ error.cause.IsStray) →
      compile tags .lax source = compile tags .strict source) ∧
    ∀ error, compile tags .lax source = .error error → ¬ error.cause.IsStray := by
  have loosens := loosens_compile builtIn source
  refine ⟨fun notStray => ?_, loosens.notStray⟩
  obtain same | ⟨error, failed, stray⟩ := loosens.same
  · exact same
  · exact absurd stray (notStray error failed)

/-- The quote stands in a raw text, which neither mode cuts into tokens. -/
theorem compile_lax_eq_strict_raw :
    compile .standard .lax "\x7b% raw %\x7d\x7b\x7b 'é \x7d\x7d\x7b% endraw %\x7d\x7b% nope %\x7d" =
      .error ⟨.unknownTag "nope", some ⟨37, 38⟩⟩ := by
  have fails : compile .standard .strict
      "\x7b% raw %\x7d\x7b\x7b 'é \x7d\x7d\x7b% endraw %\x7d\x7b% nope %\x7d" =
        .error ⟨.unknownTag "nope", some ⟨37, 38⟩⟩ :=
    eq_error_of_map_eq_error (fun _ => ()) (by decide +kernel)
  refine ((compile_lax_eq_strict TagTable.standard_builtIn _).1 ?_).trans fails
  rw [fails]
  rintro _ ⟨⟩
  exact id

end TextTemplate
