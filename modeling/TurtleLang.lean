import TurtleLang.Main
import TurtleLang.Proofs.Balance
import TurtleLang.Proofs.BlockLocality
import TurtleLang.Proofs.Calls
import TurtleLang.Proofs.Conservation
import TurtleLang.Proofs.Lexing
import TurtleLang.Proofs.LowerCase
import TurtleLang.Proofs.Outline
import TurtleLang.Proofs.Reading
import TurtleLang.Proofs.Forest
import TurtleLang.Proofs.Nesting
import TurtleLang.Proofs.DefinitionOrder
import TurtleLang.Proofs.AsciiCase
import TurtleLang.Proofs.Words
import TurtleLang.Proofs.Lines
import TurtleLang.Proofs.Walk
import TurtleLang.Proofs.Likeness
import TurtleLang.Proofs.Layout
import TurtleLang.Proofs.LetterCase
import TurtleLang.Proofs.Echo
import TurtleLang.Proofs.Continuation
import TurtleLang.Proofs.Indentation
import TurtleLang.Proofs.Sequence
import TurtleLang.Proofs.SplitPolicies
import TurtleLang.Proofs.Arity
import TurtleLang.Proofs.Swallowing
import TurtleLang.Proofs.DefinedNames
import TurtleLang.Proofs.Joining
import TurtleLang.Proofs.Scene
import TurtleLang.Proofs.Atomicity
import TurtleLang.Proofs.Banner
import TurtleLang.Proofs.EventLoop
import TurtleLang.Proofs.Literals
import TurtleLang.Proofs.WordByWord
import TurtleLang.Proofs.TokenWords
import TurtleLang.Proofs.GroupMatching
import TurtleLang.Proofs.BlockScan
import TurtleLang.Proofs.RegistryHistory
import TurtleLang.Proofs.DocumentGrammar
import TurtleLang.Proofs.DocumentScalars
import TurtleLang.Proofs.DocumentMembers
import TurtleLang.Proofs.Acceptance
import TurtleLang.Proofs.DefinedNames
