import TextTemplate.Proofs.Alignment.Compiler
import TextTemplate.Proofs.Fragments.Append

/-!
# Compiling one source after another

A source that compiles leaves no block open, so what stands after it is compiled as it is alone:
the nodes are those of the first source and then those of the second, and the errors are those of
the second, with every place moved by the length of the first (`compile_append`). The second source
is aligned with its copy behind the first one for this.
-/

namespace TextTemplate

open Text (byteSize)

/-- The call as it stands in a source that its own source stands in from byte `offset` on. -/
def FilterCall.shift (offset : Nat) (call : FilterCall) : FilterCall :=
  { call with span := call.span.shift offset }

def Pipeline.shift (offset : Nat) (pipeline : Pipeline) : Pipeline :=
  { pipeline with calls := pipeline.calls.map (·.shift offset) }

/-- The error as seen from a source that its own source stands in from byte `offset` on. -/
def ParseError.shift (error : ParseError) (offset : Nat) : ParseError :=
  { error with span := error.span.map (·.shift offset) }

theorem TagHead.span_shift (tag : TagHead) (offset : Nat) :
    TagHead.span { tag with offset := tag.offset + offset } = tag.span.shift offset := by
  simp [span, Span.shift, Nat.add_right_comm]

theorem Fragment.tagHead_shift (fragment : Fragment) (offset : Nat) :
    (fragment.shift offset).tagHead =
      { fragment.tagHead with offset := fragment.tagHead.offset + offset } := by
  simp only [tagHead, shift, Span.shift, TagHead.mk.injEq, true_and]
  omega

namespace Node

mutual

/-- The node with all filter calls within it moved by `offset` bytes. -/
def shift (offset : Nat) : Node → Node
  | .object pipeline => .object (pipeline.shift offset)
  | .cond negate sections otherwise =>
    .cond negate (shiftBranches offset sections) (shiftOtherwise offset otherwise)
  | .case subject sections otherwise =>
    .case subject (shiftCases offset sections) (shiftOtherwise offset otherwise)
  | .loop header body otherwise =>
    .loop header (shiftBody offset body) (shiftOtherwise offset otherwise)
  | .assign name pipeline => .assign name (pipeline.shift offset)
  | .capture name body => .capture name (shiftBody offset body)
  | .changed body => .changed (shiftBody offset body)
  | .host run body => .host run (shiftBody offset body)
  | node => node

/-- The nodes of a body, each moved. -/
def shiftBody (offset : Nat) : List Node → List Node
  | [] => []
  | node :: body => node.shift offset :: shiftBody offset body

/-- The body moved, if there is one. -/
def shiftOtherwise (offset : Nat) : Option (List Node) → Option (List Node)
  | none => none
  | some body => some (shiftBody offset body)

/-- The sections of a condition with their bodies moved. -/
def shiftBranches (offset : Nat) : List (Section Condition Node) → List (Section Condition Node)
  | [] => []
  | ⟨condition, body⟩ :: sections =>
    ⟨condition, shiftBody offset body⟩ :: shiftBranches offset sections

/-- The sections of a case with their bodies moved. -/
def shiftCases (offset : Nat) : List (Section (List Expr) Node) → List (Section (List Expr) Node)
  | [] => []
  | ⟨values, body⟩ :: sections => ⟨values, shiftBody offset body⟩ :: shiftCases offset sections

end

theorem shiftBody_eq_map (offset : Nat) (body : List Node) :
    shiftBody offset body = body.map (shift offset) := by
  induction body with
  | nil => rfl
  | cons node body ih => rw [shiftBody, ih, List.map_cons]

end Node

namespace Alignment

/-- A source with its copy behind `offset` bytes. -/
def moved (offset : Nat) : Alignment where
  spans _ span span' := span' = span.shift offset
  fragments fragment fragment' := fragment' = fragment.shift offset
  within := by
    rintro markup text outer _ inner rfl -
    rw [Span.shift_shift]
    rfl
  kind := by
    rintro fragment _ rfl
    rfl
  text := by
    rintro fragment _ rfl
    rfl
  span := by
    rintro fragment _ rfl
    rfl

variable {offset : Nat}

theorem eq_shift_of_calls {calls calls' : List FilterCall}
    (related : List.Forall₂ (moved offset).Calls calls calls') :
    calls' = calls.map (·.shift offset) := by
  induction related with
  | nil => rfl
  | @cons call call' calls calls' here later ih =>
    obtain ⟨name, args, span⟩ := here
    rw [ih, List.map_cons, FilterCall.shift, ← name, ← args, ← show call'.span = _ from span]

theorem eq_shift_of_pipelines {pipeline pipeline' : Pipeline}
    (pipelines : (moved offset).Pipelines pipeline pipeline') :
    pipeline' = pipeline.shift offset := by
  rw [Pipeline.shift, ← eq_shift_of_calls pipelines.calls, ← pipelines.source]

mutual

theorem eq_shift : ∀ (node : Node) {node' : Node}, (moved offset).Nodes node node' →
    node' = node.shift offset
  | .object _, _, .object pipelines => by rw [eq_shift_of_pipelines pipelines, Node.shift]
  | .assign _ _, _, .assign _ pipelines => by rw [eq_shift_of_pipelines pipelines, Node.shift]
  | .cond _ sections otherwise, _, .cond _ branches last => by
    rw [eq_shift_branches sections branches, eq_shift_otherwise otherwise last, Node.shift]
  | .case _ sections otherwise, _, .case _ branches last => by
    rw [eq_shift_cases sections branches, eq_shift_otherwise otherwise last, Node.shift]
  | .loop _ body otherwise, _, .loop _ bodies last => by
    rw [eq_shift_body body bodies, eq_shift_otherwise otherwise last, Node.shift]
  | .capture _ body, _, .capture _ bodies => by rw [eq_shift_body body bodies, Node.shift]
  | .changed body, _, .changed bodies => by rw [eq_shift_body body bodies, Node.shift]
  | .text _, _, .text _ => rfl
  | .cycle _, _, .cycle _ => rfl
  | .increment _, _, .increment _ => rfl
  | .decrement _, _, .decrement _ => rfl
  | .comment, _, .comment => rfl
  | .interrupt _, _, .interrupt _ => rfl

theorem eq_shift_body : ∀ (body : List Node) {body' : List Node},
    (moved offset).Bodies body body' → body' = Node.shiftBody offset body
  | [], _, .nil => rfl
  | node :: body, _, .cons here later => by
    rw [eq_shift node here, eq_shift_body body later, Node.shiftBody]

theorem eq_shift_otherwise : ∀ (otherwise : Option (List Node)) {otherwise' : Option (List Node)},
    Option.Rel (moved offset).Bodies otherwise otherwise' →
      otherwise' = Node.shiftOtherwise offset otherwise
  | none, _, .none => rfl
  | some body, _, .some bodies => by rw [eq_shift_body body bodies, Node.shiftOtherwise]

theorem eq_shift_branches : ∀ (sections : List (Section Condition Node))
    {sections' : List (Section Condition Node)},
    List.Forall₂ (Section.Related (moved offset).Nodes) sections sections' →
      sections' = Node.shiftBranches offset sections
  | [], _, .nil => rfl
  | ⟨condition, body⟩ :: sections, _, .cons (.mk _ bodies) later => by
    rw [eq_shift_body body bodies, eq_shift_branches sections later, Node.shiftBranches]

theorem eq_shift_cases : ∀ (sections : List (Section (List Expr) Node))
    {sections' : List (Section (List Expr) Node)},
    List.Forall₂ (Section.Related (moved offset).Nodes) sections sections' →
      sections' = Node.shiftCases offset sections
  | [], _, .nil => rfl
  | ⟨values, body⟩ :: sections, _, .cons (.mk _ bodies) later => by
    rw [eq_shift_body body bodies, eq_shift_cases sections later, Node.shiftCases]

end

theorem eq_shift_of_errors {error error' : ParseError}
    (errors : (moved offset).Errors error error') :
    error' = error.shift offset := by
  cases errors with
  | placed spans names =>
    rw [ParseError.shift, show _ = _ from spans]
    rfl
  | @unknownTag fragment _ related isTag =>
    cases related
    rw [fragment.tagHead_shift, ParseError.shift, Option.map_some, TagHead.span_shift]

theorem forall₂_shift (offset : Nat) (fragments : List Fragment) :
    List.Forall₂ (moved offset).fragments fragments (fragments.map (·.shift offset)) :=
  List.forall₂_map_right_iff.2 (List.forall₂_same.2 fun _ _ => rfl)

end Alignment

/-! ## Runs of the compiler -/

namespace Compiler

variable {tags : TagTable} {mode : LexMode} {compiler : Compiler} {fragment : Fragment}
  {fragments : List Fragment} {nodes : List Node}

theorem finish_eq_ok (finished : compiler.finish = .ok nodes) :
    compiler = ⟨nodes.reverse, [], none⟩ := by
  obtain ⟨passed, blocks, verbatim⟩ := compiler
  cases verbatim with
  | some verbatim => cases finished
  | none =>
    cases blocks with
    | nil =>
      cases finished
      simp [body]
    | cons block blocks => cases finished

theorem run_eq_ok (ran : run tags mode fragments = .ok nodes) :
    fragments.foldlM (step tags mode) start = .ok ⟨nodes.reverse, [], none⟩ := by
  unfold run at ran
  cases fed : fragments.foldlM (step tags mode) start with
  | error error =>
    rw [fed] at ran
    cases ran
  | ok compiler =>
    rw [fed] at ran
    rw [finish_eq_ok ran]

theorem run_append (fed : fragments.foldlM (step tags mode) start = .ok compiler)
    (later : List Fragment) :
    run tags mode (fragments ++ later) = later.foldlM (step tags mode) compiler >>= finish := by
  unfold run
  rw [List.foldlM_append, fed]
  rfl

/-- A text where nothing is open is a node. -/
theorem foldlM_text (isText : fragment.kind = .text) :
    (fragment :: fragments).foldlM (step tags mode) ⟨nodes, [], none⟩ =
      fragments.foldlM (step tags mode) ⟨.text fragment.text :: nodes, [], none⟩ := by
  rw [List.foldlM_cons]
  simp only [step, isText]
  rfl

/-- A text that leaves nothing open was read where nothing was open. -/
theorem step_text_eq_ok (isText : fragment.kind = .text)
    (stepped : compiler.step tags mode fragment = .ok ⟨nodes, [], none⟩) :
    ∃ before, compiler = ⟨before, [], none⟩ ∧ nodes = .text fragment.text :: before := by
  obtain ⟨before, blocks, verbatim⟩ := compiler
  cases verbatim with
  | some verbatim =>
    have goesOn : fragment.closes verbatim.tag = false := by simp [Fragment.closes, isText]
    simp [step, passOver, goesOn] at stepped
  | none =>
    simp only [step, isText] at stepped
    cases stepped
    exact ⟨before, rfl, rfl⟩

/-- A text at the end of what compiles is a node at the end. -/
theorem run_text_eq_ok {last : Fragment} (isText : last.kind = .text)
    (ran : run tags mode (fragments ++ [last]) = .ok nodes) :
    ∃ front, fragments.foldlM (step tags mode) start = .ok ⟨front.reverse, [], none⟩ ∧
      nodes = front ++ [.text last.text] := by
  have fed := run_eq_ok ran
  rw [List.foldlM_append] at fed
  cases fedFront : fragments.foldlM (step tags mode) start with
  | error error =>
    rw [fedFront] at fed
    cases fed
  | ok compiler =>
    rw [fedFront] at fed
    change [last].foldlM (step tags mode) compiler = _ at fed
    have stepped : compiler.step tags mode last = .ok ⟨nodes.reverse, [], none⟩ := by
      simpa using fed
    obtain ⟨before, rfl, same⟩ := step_text_eq_ok isText stepped
    refine ⟨before.reverse, by rw [List.reverse_reverse], ?_⟩
    rw [← nodes.reverse_reverse, same, List.reverse_cons]

end Compiler

/-- The nodes of two sources that stand side by side, from those of the first and those of the
second, which begins at byte `offset`. Where texts meet they become one. -/
inductive Node.Appended (offset : Nat) (meet : Prop) :
    List Node → List Node → List Node → Prop
  | apart {nodes later : List Node} (noMeet : ¬ meet) :
      Appended offset meet nodes later (nodes ++ later.map (Node.shift offset))
  | meet {nodes later : List Node} {text next : String} (texts : meet) :
      Appended offset meet (nodes ++ [.text text]) (.text next :: later)
        (nodes ++ .text (text ++ next) :: later.map (Node.shift offset))

namespace Alignment

variable {tags : TagTable} {mode : LexMode} {offset : Nat} {fragments : List Fragment}

/-- What is compiled after some nodes, and after other ones in the copy. -/
theorem outcomes_after (builtIn : tags.BuiltIn) (bottom bottom' : List Node)
    (fragments : List Fragment) :
    (moved offset).Outcomes
      (fun body body' => ∃ nodes, body = bottom.reverse ++ nodes ∧
        body' = bottom'.reverse ++ nodes.map (Node.shift offset))
      (fragments.foldlM (Compiler.step tags mode) ⟨bottom, [], none⟩ >>= Compiler.finish)
      ((fragments.map (·.shift offset)).foldlM (Compiler.step tags mode) ⟨bottom', [], none⟩ >>=
        Compiler.finish) := by
  have states : (moved offset).States bottom bottom' ⟨bottom, [], none⟩ ⟨bottom', [], none⟩ :=
    ⟨.outer .nil, .none⟩
  refine outcomes_bind (outcomes_feed builtIn (forall₂_shift offset fragments) states)
    fun compiler compiler' states => (outcomes_finish states).mono ?_
  rintro _ _ ⟨nodes, nodes', bodies, rfl, rfl⟩
  refine ⟨nodes, rfl, ?_⟩
  rw [eq_shift_body nodes bodies, Node.shiftBody_eq_map]

theorem outcomes_appended (builtIn : tags.BuiltIn) {before later all : List Fragment}
    {nodes : List Node} (ran : Compiler.run tags mode before = .ok nodes)
    (appended : Fragment.Appended offset before later all) :
    (moved offset).Outcomes (Node.Appended offset (Fragment.Meet before later) nodes)
      (Compiler.run tags mode later) (Compiler.run tags mode all) := by
  cases appended with
  | apart noMeet =>
    rw [Compiler.run_append (Compiler.run_eq_ok ran)]
    refine (outcomes_after builtIn [] nodes.reverse later).mono ?_
    rintro _ _ ⟨body, rfl, rfl⟩
    rw [List.reverse_reverse]
    exact .apart noMeet
  | @meet before later last next span isText nextIsText =>
    obtain ⟨front, fed, rfl⟩ := Compiler.run_text_eq_ok isText ran
    rw [Compiler.run_append fed, Compiler.foldlM_text rfl]
    unfold Compiler.run Compiler.start
    rw [Compiler.foldlM_text nextIsText]
    refine (outcomes_after builtIn [.text next.text]
      (.text (last.text ++ next.text) :: front.reverse) later).mono ?_
    rintro _ _ ⟨body, rfl, rfl⟩
    have meet : Fragment.Meet (before ++ [last]) (next :: later) := by
      simp [Fragment.Meet, isText, nextIsText]
    simpa using Node.Appended.meet meet

end Alignment

/-- The last fragment of the one source and the first of the other are texts. -/
def TextsMeet (first second : String) : Prop :=
  ∃ before later, Fragment.scan first = .ok before ∧ Fragment.scan second = .ok later ∧
    Fragment.Meet before later

variable {tags : TagTable} {mode : LexMode} {first second : String} {nodes : List Node}

theorem outcomes_compile (builtIn : tags.BuiltIn) (compiled : compile tags mode first = .ok nodes)
    (apart : Fragment.Apart first.toList second.toList) :
    (Alignment.moved first.utf8ByteSize).Outcomes
      (Node.Appended first.utf8ByteSize (TextsMeet first second) nodes)
      (compile tags mode second) (compile tags mode (first ++ second)) := by
  unfold compile at compiled ⊢
  cases scanned : Fragment.scan first with
  | error error =>
    rw [scanned] at compiled
    cases compiled
  | ok before =>
    rw [scanned] at compiled
    obtain ⟨fails, scans⟩ := Fragment.scan_append scanned apart
    cases scannedSecond : Fragment.scan second with
    | error error =>
      rw [fails error scannedSecond]
      obtain ⟨delimiter, cause, -⟩ := Fragment.opener_of_scan scannedSecond
      have names : ParseError.Cause.Names (.lexical error.cause) delimiter.opener.toList := by
        rw [cause]
        rfl
      exact .error (.placed rfl names)
    | ok later =>
      obtain ⟨all, scannedAll, appended⟩ := scans later scannedSecond
      rw [scannedAll]
      have meet : TextsMeet first second = Fragment.Meet before later := by
        unfold TextsMeet
        simp [scanned, scannedSecond]
      rw [meet]
      exact Alignment.outcomes_appended builtIn compiled appended

/-- With built-in tags, and where two sources do not make an opening delimiter between them: after a
source that compiles, a source has the errors that it has alone, and its nodes come after those of
the first, all places being moved by the length of the first. Two texts that meet become one. -/
theorem compile_append (builtIn : tags.BuiltIn) (compiled : compile tags mode first = .ok nodes)
    (apart : Fragment.Apart first.toList second.toList) :
    (∀ error, compile tags mode (first ++ second) = .error error ↔
      ∃ alone, compile tags mode second = .error alone ∧
        error = alone.shift first.utf8ByteSize) ∧
    ∀ later, compile tags mode second = .ok later →
      ∃ all, compile tags mode (first ++ second) = .ok all ∧
        Node.Appended first.utf8ByteSize (TextsMeet first second) nodes later all := by
  have outcomes := outcomes_compile builtIn compiled apart
  generalize compile tags mode second = alone at outcomes
  generalize compile tags mode (first ++ second) = both at outcomes
  cases outcomes with
  | ok appended =>
    refine ⟨fun error => ⟨fun failed => (nomatch failed), ?_⟩, ?_⟩
    · rintro ⟨alone, failed, -⟩
      cases failed
    · rintro later ⟨⟩
      exact ⟨_, rfl, appended⟩
  | error errors =>
    refine ⟨fun error => ⟨?_, ?_⟩, fun later compiled => (nomatch compiled)⟩
    · rintro ⟨⟩
      exact ⟨_, rfl, Alignment.eq_shift_of_errors errors⟩
    · rintro ⟨alone, ⟨⟩, rfl⟩
      rw [Alignment.eq_shift_of_errors errors]

/-- A text goes on in the second source, and places behind it are moved by bytes. -/
theorem compile_append_multibyte :
    (∃ nodes later all, compile .standard .strict "é\x7b\x7b x|f \x7d\x7da" = .ok nodes ∧
      compile .standard .strict "b\x7b\x7b y|g \x7d\x7d" = .ok later ∧
      compile .standard .strict ("é\x7b\x7b x|f \x7d\x7da" ++ "b\x7b\x7b y|g \x7d\x7d") = .ok all ∧
      Node.Appended 12 (TextsMeet "é\x7b\x7b x|f \x7d\x7da" "b\x7b\x7b y|g \x7d\x7d")
        nodes later all) ∧
    compile .standard .strict ("é\x7b\x7b x|f \x7d\x7da" ++ "\x7b% nope %\x7d") =
      .error ⟨.unknownTag "nope", some ⟨19, 20⟩⟩ := by
  have firstReads : (compile .standard .strict "é\x7b\x7b x|f \x7d\x7da").isOk = true := by
    decide +kernel
  have secondReads : (compile .standard .strict "b\x7b\x7b y|g \x7d\x7d").isOk = true := by
    decide +kernel
  have fails : (compile .standard .strict "\x7b% nope %\x7d").map (fun _ => ()) =
      .error ⟨.unknownTag "nope", some ⟨7, 8⟩⟩ := by
    decide +kernel
  have failed : compile .standard .strict "\x7b% nope %\x7d" =
      .error ⟨.unknownTag "nope", some ⟨7, 8⟩⟩ := by
    cases outcome : compile .standard .strict "\x7b% nope %\x7d" with
    | ok nodes =>
      rw [outcome] at fails
      cases fails
    | error error =>
      rw [outcome] at fails
      cases fails
      rfl
  cases compiled : compile .standard .strict "é\x7b\x7b x|f \x7d\x7da" with
  | error error =>
    rw [compiled] at firstReads
    cases firstReads
  | ok nodes =>
    cases compiledSecond : compile .standard .strict "b\x7b\x7b y|g \x7d\x7d" with
    | error error =>
      rw [compiledSecond] at secondReads
      cases secondReads
    | ok later =>
      have noBrace (second : List Char) :
          Fragment.Apart "é\x7b\x7b x|f \x7d\x7da".toList second := fun brace => by cases brace
      obtain ⟨all, compiledBoth, appended⟩ :=
        (compile_append TagTable.standard_builtIn compiled (noBrace _)).2 later compiledSecond
      refine ⟨⟨nodes, later, all, rfl, rfl, compiledBoth, appended⟩, ?_⟩
      exact ((compile_append TagTable.standard_builtIn compiled (noBrace _)).1 _).2 ⟨_, failed, rfl⟩

end TextTemplate
