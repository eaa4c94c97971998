import PathGlob.Captures.Cursor
import PathGlob.Main
import PathGlob.Pool
import PathGlob.Search.Preference
import PathGlob.Session
import PathGlob.Proofs.Shelving
import PathGlob.Proofs.Backtracking
import PathGlob.Proofs.Meaning
import PathGlob.Proofs.Accounting
import PathGlob.Proofs.Transparency
import PathGlob.Proofs.Mirror
import PathGlob.Proofs.FirstAccess
import PathGlob.Proofs.Output
import PathGlob.Proofs.Escaping
import PathGlob.Proofs.Positions
import PathGlob.Proofs.Precedence
import PathGlob.Proofs.Sharing
import PathGlob.Proofs.DefaultFormat
import PathGlob.Proofs.Layering
import PathGlob.Proofs.Length
import PathGlob.Proofs.ByteCuts
import PathGlob.Engine
import PathGlob.Proofs.Cutting
import PathGlob.Proofs.StarRuns
import PathGlob.Proofs.Walking
import PathGlob.Proofs.WrittenForm
