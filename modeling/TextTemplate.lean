import TextTemplate.Fragment.Scan
import TextTemplate.Token
import TextTemplate.Token.Lexer
import TextTemplate.Number.Decimal
import TextTemplate.Number.Shortest
import TextTemplate.Text.CaseMap
import TextTemplate.Text.CharClass
import TextTemplate.Text.LetterCase
import TextTemplate.Text.Quoted
import TextTemplate.Text.Search
import TextTemplate.Cursor
import TextTemplate.Expr
import TextTemplate.Expr.Parser
import TextTemplate.Data
import TextTemplate.Data.Access
import TextTemplate.Condition
import TextTemplate.Filter
import TextTemplate.Filter.Arithmetic
import TextTemplate.Filter.Collection
import TextTemplate.Filter.Standard
import TextTemplate.Context
import TextTemplate.Cycle
import TextTemplate.Loop
import TextTemplate.Node
import TextTemplate.Node.Render
import TextTemplate.Block
import TextTemplate.Compile
import TextTemplate.Engine
import TextTemplate.Extra.Filters
import TextTemplate.Extra.Tags
import TextTemplate.Proofs.Located
import TextTemplate.Proofs.Fragments
import TextTemplate.Proofs.Fragments.Scanner
import TextTemplate.Proofs.Lexemes
import TextTemplate.Proofs.Tiling
import TextTemplate.Proofs.Readable
import TextTemplate.Proofs.Reading
import TextTemplate.Proofs.Reading.Expressions
import TextTemplate.Proofs.Reading.Pipelines
import TextTemplate.Proofs.Alignment
import TextTemplate.Proofs.Alignment.Parsers
import TextTemplate.Proofs.Alignment.Trees
import TextTemplate.Proofs.Alignment.Compiler
import TextTemplate.Proofs.ErrorPlaces
import TextTemplate.Proofs.Fragments.Append
import TextTemplate.Proofs.Concatenation
import TextTemplate.Proofs.Table
import TextTemplate.Proofs.Tree
import TextTemplate.Proofs.Evolution
import TextTemplate.Proofs.Frame
import TextTemplate.Proofs.Trace
import TextTemplate.Proofs.Visits
import TextTemplate.Proofs.LoopScope
import TextTemplate.Proofs.Interrupt
import TextTemplate.Proofs.Drops
import TextTemplate.Proofs.Equality
import TextTemplate.Proofs.Reader
import TextTemplate.Proofs.Regime
import TextTemplate.Proofs.Totality
import TextTemplate.Proofs.Alike
import TextTemplate.Proofs.AlikeReads
import TextTemplate.Proofs.AlikeRuns
import TextTemplate.Proofs.DropCache
import TextTemplate.Proofs.DirectReads
import TextTemplate.Proofs.LoopPosition
import TextTemplate.Proofs.Grammar
import TextTemplate.Proofs.Grammar.Completeness
import TextTemplate.Proofs.Grammar.Soundness
import TextTemplate.Proofs.Reports
import TextTemplate.Proofs.LexModes
import TextTemplate.Proofs.Sequences
import TextTemplate.Proofs.LoopWindow
import TextTemplate.Proofs.EqualData
import TextTemplate.Proofs.Comparing
import TextTemplate.Proofs.Circles
import TextTemplate.Proofs.Blanking
import TextTemplate.Proofs.Verbatim
import TextTemplate.Proofs.Truncation
import TextTemplate.Proofs.Counters
import TextTemplate.Proofs.Reading.Conditions
import TextTemplate.Proofs.Conditions
import TextTemplate.Proofs.Cycles
import TextTemplate.Proofs.CycleKeys
import TextTemplate.Proofs.Repeats
import TextTemplate.Proofs.Branches
import TextTemplate.Proofs.Clauses
import TextTemplate.Proofs.Spelling
import TextTemplate.Proofs.LexAppend
import TextTemplate.Proofs.Access
import TextTemplate.Proofs.Positions
import TextTemplate.Proofs.Integers
import TextTemplate.Proofs.Sizes
import TextTemplate.Proofs.Arithmetic
import TextTemplate.Proofs.Targets
import TextTemplate.Proofs.CacheRecords
import TextTemplate.Proofs.Registration
import TextTemplate.Proofs.Reading.Loops
import TextTemplate.Proofs.Modifiers
import TextTemplate.Proofs.Insertion
import TextTemplate.Proofs.ByteOrder
import TextTemplate.Proofs.FiniteMap
import TextTemplate.Proofs.Procedure
import TextTemplate.Proofs.Descent
import TextTemplate.Proofs.Descent.Sections
import TextTemplate.Proofs.Descent.Agreement
import TextTemplate.Proofs.Pointer
import TextTemplate.Proofs.Pointer.Moves
import TextTemplate.Proofs.Pointer.Parsers
import TextTemplate.Proofs.Pointer.Acts
