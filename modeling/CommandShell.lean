import CommandShell.Address
import CommandShell.Application
import CommandShell.CommandLine.Read
import CommandShell.CommandLine.Setting
import CommandShell.Datum
import CommandShell.Decider.Basic
import CommandShell.Decider.Predicates
import CommandShell.Decider.Signature
import CommandShell.Demo
import CommandShell.Error
import CommandShell.Evaluator.Builtin
import CommandShell.Evaluator.Evaluate
import CommandShell.Evaluator.Program
import CommandShell.Evaluator.Values
import CommandShell.Evaluator.World
import CommandShell.Event
import CommandShell.Feedback
import CommandShell.Host.Deciders
import CommandShell.Host.Handlers
import CommandShell.Host.Store
import CommandShell.Limits
import CommandShell.Log.HostEntry
import CommandShell.Log.Line
import CommandShell.Log.Threshold
import CommandShell.Main
import CommandShell.Number.Amount
import CommandShell.Number.Arithmetic
import CommandShell.Number.Binary64
import CommandShell.Number.Decimal
import CommandShell.Number.Integer
import CommandShell.Pattern.Basic
import CommandShell.Pattern.CharacterClass
import CommandShell.Pattern.Escape
import CommandShell.Pattern.Parse
import CommandShell.Pattern.Reader
import CommandShell.Pattern.Search
import CommandShell.Proofs.Balance
import CommandShell.Proofs.Cut
import CommandShell.Proofs.TokenGrammar
import CommandShell.Stream.Connection
import CommandShell.Stream.Framer
import CommandShell.Stream.Pieces
import CommandShell.Stream.Server
import CommandShell.Stream.Shell
import CommandShell.Stream.Splitter
import CommandShell.Table.Basic
import CommandShell.Text.Base64
import CommandShell.Text.Blank
import CommandShell.Text.CharacterName
import CommandShell.Text.CharacterName.Alphabets
import CommandShell.Text.CharacterName.AncientScripts
import CommandShell.Text.CharacterName.FurtherNames
import CommandShell.Text.CharacterName.Pictures
import CommandShell.Text.CharacterName.Scripts
import CommandShell.Text.CharacterName.Symbols
import CommandShell.Text.Excerpt
import CommandShell.Text.Identifier
import CommandShell.Text.LetterCase
import CommandShell.Text.Printable
import CommandShell.Text.Quoted
import CommandShell.Text.Ranges
import CommandShell.Text.Utf8
import CommandShell.Text.WordCharacter
import CommandShell.Token.Basic
import CommandShell.Token.Lexeme
import CommandShell.Token.Scanner
import CommandShell.Token.Statement
import CommandShell.Tree.Basic
import CommandShell.Tree.Build
import CommandShell.Tree.Parse
import CommandShell.Proofs.Statement
import CommandShell.Proofs.Grammar
import CommandShell.Proofs.RoundTrip
import CommandShell.Proofs.Segment
import CommandShell.Proofs.Framing
import CommandShell.Proofs.Judgement
import CommandShell.Proofs.PostOrder
import CommandShell.Proofs.Reentry
import CommandShell.Proofs.Machine
import CommandShell.Proofs.Action
import CommandShell.Proofs.Evaluation
import CommandShell.Proofs.Record
import CommandShell.Proofs.DepthBudget
import CommandShell.Proofs.ReadingLimits
import CommandShell.Proofs.Lockstep
import CommandShell.Proofs.RaisedLimits
import CommandShell.Proofs.Registry
import CommandShell.Proofs.Outspoken
import CommandShell.Proofs.History
import CommandShell.Proofs.Relocation
import CommandShell.Proofs.Script
import CommandShell.Proofs.StatementText
import CommandShell.Proofs.FramedStatement
import CommandShell.Proofs.Decoding
import CommandShell.Proofs.Session
import CommandShell.Proofs.QuietHandlers
import CommandShell.Proofs.Interleaving
import CommandShell.Proofs.UnfinishedCall
import CommandShell.Proofs.OpenParentheses
import CommandShell.Proofs.BuilderLoop
import CommandShell.Proofs.WholeText
import CommandShell.Proofs.ErrorOrder
import CommandShell.Proofs.Offence
import CommandShell.Proofs.ErrorPosition
import CommandShell.Proofs.ErrorPrecedence
import CommandShell.Proofs.GrantedValues
import CommandShell.Proofs.MissingCommands
import CommandShell.Proofs.TableStock
import CommandShell.Proofs.DemoConduct
import CommandShell.Proofs.DemoSession
import CommandShell.Proofs.BatchFraming
import CommandShell.Proofs.EndOfStream
import CommandShell.Proofs.Resolution
import CommandShell.Proofs.SingleStatement
import CommandShell.Proofs.IntegerText
import CommandShell.Proofs.CutPoints
import CommandShell.Proofs.GreedyParts
import CommandShell.Proofs.Completion
import CommandShell.Proofs.TokenBalance
import CommandShell.Proofs.ScannerCalls
import CommandShell.Proofs.TokenLayout
import CommandShell.Proofs.Installation
