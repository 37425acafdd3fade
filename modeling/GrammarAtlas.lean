import GrammarAtlas.Grammar.Advice
import GrammarAtlas.Main
import GrammarAtlas.NodeType.Reader
import GrammarAtlas.Proofs.Derivation
import GrammarAtlas.Proofs.NodeType.Slot
import GrammarAtlas.Proofs.NodeType.Expansion
import GrammarAtlas.Proofs.Derivation.Trail
import GrammarAtlas.Proofs.NodeType.Bounds
import GrammarAtlas.Proofs.Derivation.Completion
import GrammarAtlas.Proofs.NodeType.Exactness
import GrammarAtlas.Proofs.Symbol.Numbering
import GrammarAtlas.Proofs.Symbol.Entries
import GrammarAtlas.Proofs.Symbol.Table
import GrammarAtlas.Proofs.Derivation.Referent
import GrammarAtlas.Proofs.NodeType.Listing
import GrammarAtlas.Proofs.Grammar.Consistency
import GrammarAtlas.Proofs.NodeType.Structure
import GrammarAtlas.Proofs.Symbol.Assembly
import GrammarAtlas.Proofs.Symbol.Addressing
import GrammarAtlas.Proofs.Language.Lookup
import GrammarAtlas.Proofs.Symbol.Kinds
import GrammarAtlas.Proofs.NodeType.Alias
import GrammarAtlas.Proofs.Symbol.Sequence
import GrammarAtlas.Proofs.Symbol.Layout
import GrammarAtlas.Proofs.Symbol.Resolution
import GrammarAtlas.Proofs.NodeType.Correspondence
import GrammarAtlas.Proofs.Symbol.Fields
import GrammarAtlas.Proofs.NodeType.References
import GrammarAtlas.Proofs.ByName
import GrammarAtlas.Proofs.Symbol.Supertype
import GrammarAtlas.Proofs.Language.Supertypes
import GrammarAtlas.Proofs.NodeType.Subtypes
import GrammarAtlas.Proofs.Grammar.Arrangement
import GrammarAtlas.Proofs.Language.Arrangement
import GrammarAtlas.Proofs.Json.Spelling
import GrammarAtlas.Proofs.Json.Decoding
import GrammarAtlas.Proofs.Json.Skipping
import GrammarAtlas.Proofs.Json.Record
import GrammarAtlas.Proofs.Json.RoundTrip
import GrammarAtlas.Proofs.NodeType.Document
import GrammarAtlas.Proofs.NodeType.Children
import GrammarAtlas.Proofs.Rule.Alike
import GrammarAtlas.Proofs.Grammar.Alike
import GrammarAtlas.Proofs.Language.Alike
import GrammarAtlas.Proofs.Language.Precedence
import GrammarAtlas.Proofs.Rule.Flattening
import GrammarAtlas.Proofs.Language.Flattening
import GrammarAtlas.Proofs.Rule.Spelling
import GrammarAtlas.Proofs.Grammar.Document
import GrammarAtlas.Proofs.Text.Bytes
import GrammarAtlas.Proofs.Grammar.EntryRule
import GrammarAtlas.Proofs.Grammar.Reachability
import GrammarAtlas.Proofs.NodeType.Extras
import GrammarAtlas.Proofs.Grammar.Reordering
import GrammarAtlas.Proofs.Symbol.Reordering
import GrammarAtlas.Proofs.NodeType.Reordering
import GrammarAtlas.Proofs.NodeType.Evaluation
