import DslOutline.Main
import DslOutline.Proofs.Lexeme.Mask
import DslOutline.Proofs.Block.Tokens
import DslOutline.Proofs.Block.Matching
import DslOutline.Proofs.Lexeme.Literal
import DslOutline.Proofs.Outline.SectionStart
import DslOutline.Proofs.Outline.Ranges
import DslOutline.Proofs.Outline.Positions
import DslOutline.Proofs.Block.MaskedTokens
import DslOutline.Proofs.Lexeme.MaskedBytes
import DslOutline.Proofs.Lexeme.Restart
import DslOutline.Proofs.Lexeme.Cursor
import DslOutline.Proofs.Outline.Opener
import DslOutline.Proofs.Text.Checked
import DslOutline.Proofs.Text.Offsets
import DslOutline.Proofs.Outline.Checked
import DslOutline.Proofs.Outline.Links
import DslOutline.Proofs.Outline.Activation
import DslOutline.Proofs.Outline.ActivationOrder
import DslOutline.Proofs.Outline.Append
import DslOutline.Proofs.Outline.Comments
import DslOutline.Proofs.Cache.Newest
import DslOutline.Proofs.Cache.Transparency
import DslOutline.Proofs.Schema.Identity
import DslOutline.Proofs.Browser.Session
import DslOutline.Proofs.Outline.UseRanges
import DslOutline.Proofs.Schema.Defects
import DslOutline.Proofs.Block.Depth
import DslOutline.Proofs.Block.Limits
import DslOutline.Proofs.Block.Lines
import DslOutline.Proofs.Outline.BlockHeads
import DslOutline.Proofs.Outline.Nesting
import DslOutline.Proofs.Outline.SharedSections
import DslOutline.Proofs.Outline.WholeKeywords
import DslOutline.Proofs.Toml.Strings
import DslOutline.Proofs.Toml.Fields
import DslOutline.Proofs.Files.Discovery
import DslOutline.Proofs.Files.Saved
import DslOutline.Proofs.Config.Saved
