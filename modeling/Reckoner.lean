import Reckoner.Text.Blank
import Reckoner.Text.DecimalDigit
import Reckoner.Text.Quoted
import Reckoner.Text.Case
import Reckoner.Number.Word
import Reckoner.Number.Ratio
import Reckoner.Number.Shortest
import Reckoner.Number.Numeral
import Reckoner.Number.Power
import Reckoner.Number.Render
import Reckoner.Measure.Currency
import Reckoner.Quantity
import Reckoner.Expr.Render
import Reckoner.Expr.Evaluate
import Reckoner.Rates.Pivot
import Reckoner.Token.Lexeme
import Reckoner.Calculate
import Reckoner.Rates.Bulletin
import Reckoner.Rates.Envelope
import Reckoner.Calendar.Zone
import Reckoner.Host.Basic
import Reckoner.Text.Banner
import Reckoner.Settings.Reference
import Reckoner.Settings.Layout
import Reckoner.Settings.Registry
import Reckoner.Rates.Service
import Reckoner.Shell.Program
import Reckoner.Main
import Reckoner.Proofs.Grammar.Longest
import Reckoner.Proofs.Grammar.Calls
import Reckoner.Proofs.Grammar.Memo
import Reckoner.Proofs.Grammar.Derivation
import Reckoner.Proofs.Grammar.Completeness
import Reckoner.Proofs.Grammar.Nesting
import Reckoner.Proofs.Expr.Evaluation
import Reckoner.Proofs.Number.Exact
import Reckoner.Proofs.Measure.Convert
import Reckoner.Proofs.Rates.CrossRate
import Reckoner.Proofs.Expr.Units
import Reckoner.Proofs.Expr.Exact
import Reckoner.Proofs.Number.Canonical
import Reckoner.Proofs.Number.Binary
import Reckoner.Proofs.Number.Moderate
import Reckoner.Proofs.Number.Guarded
import Reckoner.Proofs.Number.GuardedPower
import Reckoner.Proofs.Number.GuardedText
import Reckoner.Proofs.Expr.Guarded
import Reckoner.Proofs.Token.Guarded
import Reckoner.Proofs.Calculate
import Reckoner.Proofs.Grammar.Chain
import Reckoner.Proofs.Grammar.Buffer
import Reckoner.Proofs.Token.Lexeme
import Reckoner.Proofs.Expr.Frame
import Reckoner.Proofs.Rates.Bulletin
import Reckoner.Proofs.Rates.Service
import Reckoner.Proofs.Shell.Segmentation
import Reckoner.Proofs.Number.Fits
import Reckoner.Proofs.Measure.RoundTrip
import Reckoner.Proofs.Text.Trim
import Reckoner.Proofs.Token.Excess
import Reckoner.Proofs.Expr.Steady
import Reckoner.Proofs.Shell.Replay
import Reckoner.Proofs.Token.Front
import Reckoner.Proofs.Expr.Text
import Reckoner.Proofs.Expr.Readback
import Reckoner.Proofs.Rates.Arbitrage
import Reckoner.Proofs.Expr.Stacks
import Reckoner.Proofs.Token.Spacing
import Reckoner.Proofs.Rates.Finality
import Reckoner.Proofs.Host.Files
import Reckoner.Proofs.Text.LineEnds
import Reckoner.Proofs.Xml.Markup
import Reckoner.Proofs.Xml.Escape
import Reckoner.Proofs.Xml.Prefixes
import Reckoner.Proofs.Document.Read
import Reckoner.Proofs.Rates.Publication
import Reckoner.Proofs.Rates.Envelope
import Reckoner.Proofs.Rates.Keeping
import Reckoner.Proofs.Rates.Reload
import Reckoner.Proofs.Quantity.Text
import Reckoner.Proofs.Number.RatioPower
import Reckoner.Proofs.Number.Power
import Reckoner.Proofs.Text.Case
import Reckoner.Proofs.Settings.Store
import Reckoner.Proofs.Settings.Layout
import Reckoner.Proofs.Settings.Manager
import Reckoner.Proofs.Settings.Precedence
import Reckoner.Proofs.Token.Integer
import Reckoner.Proofs.Rates.Freshness
import Reckoner.Proofs.Settings.Failure
import Reckoner.Proofs.Expr.Money
import Reckoner.Proofs.Expr.Adjacent
import Reckoner.Proofs.Number.LowestTerms
import Reckoner.Proofs.Expr.Pieces
