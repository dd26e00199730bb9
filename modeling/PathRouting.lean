import PathRouting.Text.Basic
import PathRouting.Text.Blank
import PathRouting.Text.Case
import PathRouting.Text.Digit
import PathRouting.Text.Quoted
import PathRouting.Text.Word
import PathRouting.Dictionary
import PathRouting.Path
import PathRouting.Pattern.Parse
import PathRouting.Validator.BuiltIn
import PathRouting.Regex.Match
import PathRouting.Validator.Expression
import PathRouting.Tree.Lookup
import PathRouting.Router
import PathRouting.Document.Json
import PathRouting.Table.Decode
import PathRouting.Table.Encode
import PathRouting.Table.Build
import PathRouting.Document.Yaml.Parse
import PathRouting.Document.Toml.Parse
import PathRouting.Table.Format
import PathRouting.Logging.Settings
import PathRouting.Service
import PathRouting.CommandLine.Run
import PathRouting.Main
import PathRouting.Proofs.Pattern.Reading
import PathRouting.Proofs.Tree.Routes
import PathRouting.Proofs.Tree.Grown
import PathRouting.Proofs.Tree.Graft
import PathRouting.Proofs.Tree.Reachable
import PathRouting.Proofs.Tree.PrefixTree
import PathRouting.Proofs.Lookup.Accepts
import PathRouting.Proofs.Lookup.Fit
import PathRouting.Proofs.Lookup.Greedy
import PathRouting.Proofs.Lookup.Defaults
import PathRouting.Proofs.Lookup.Walk
import PathRouting.Proofs.Lookup.Search
import PathRouting.Proofs.Dictionary
import PathRouting.Proofs.Lookup.Fill
import PathRouting.Proofs.Lookup.Params
import PathRouting.Proofs.Tree.Clash
import PathRouting.Proofs.Tree.Verdict
import PathRouting.Proofs.Tree.Shape
import PathRouting.Proofs.Lookup.Pruning
import PathRouting.Proofs.Lookup.Later
import PathRouting.Proofs.Tree.Batch
import PathRouting.Proofs.Lookup.Order
import PathRouting.Proofs.Text.Cut
import PathRouting.Proofs.Text.Offset
import PathRouting.Proofs.Text.Bytes
import PathRouting.Proofs.Path
import PathRouting.Proofs.Pattern.Placeholder
import PathRouting.Proofs.Pattern.Grammar
import PathRouting.Proofs.Pattern.Scan
import PathRouting.Proofs.Pattern.Compose
import PathRouting.Proofs.Pattern.Spelling
import PathRouting.Proofs.Pattern.Lengths
import PathRouting.Proofs.Regex.Enclosed
import PathRouting.Proofs.Regex.Items
import PathRouting.Proofs.Regex.Wrapped
import PathRouting.Proofs.Regex.Anchored
import PathRouting.Proofs.Regex.Leftmost
import PathRouting.Proofs.Validator.Offset
import PathRouting.Proofs.Validator.BuiltIn
import PathRouting.Proofs.Validator.Expression
import PathRouting.Proofs.Lookup.Selector
import PathRouting.Proofs.Lookup.Sight
import PathRouting.Proofs.Lookup.Confined
import PathRouting.Proofs.Lookup.Indexed
import PathRouting.Proofs.Lookup.Trail
import PathRouting.Proofs.Table.Parts
import PathRouting.Proofs.Table.Build
import PathRouting.Proofs.Table.Written
import PathRouting.Proofs.Lookup.Validators
import PathRouting.Proofs.Lookup.Reports
import PathRouting.Proofs.Lookup.Explicit
import PathRouting.Proofs.Service
import PathRouting.Proofs.Numeral
import PathRouting.Proofs.Settings
