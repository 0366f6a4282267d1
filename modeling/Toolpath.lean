import Toolpath.Number.Binary
import Toolpath.Number.Decimal
import Toolpath.Number.Text
import Toolpath.Number.Read
import Toolpath.Number.Stepwise
import Toolpath.Geometry.Point
import Toolpath.Text.Printable
import Toolpath.Text.Cased
import Toolpath.Text.Lowercase
import Toolpath.Units
import Toolpath.Primitive.Error
import Toolpath.Primitive.Basic
import Toolpath.Primitive.Attribute
import Toolpath.Primitive.Proximity
import Toolpath.Motion.Plotter
import Toolpath.Motion.Emit
import Toolpath.Settings.Config
import Toolpath.Text.GraphemeExtend
import Toolpath.Settings.Mismatch
import Toolpath.Settings.FromJson
import Toolpath.Program.Compile
import Toolpath.Json.Value
import Toolpath.Json.Reader
import Toolpath.Files.Path
import Toolpath.Files.Workspace
import Toolpath.Drawing.Basic
import Toolpath.Drawing.Import
import Toolpath.Dxf.Text
import Toolpath.Dxf.Pair
import Toolpath.Dxf.Source
import Toolpath.Dxf.Group
import Toolpath.Dxf.Header
import Toolpath.Dxf.Table
import Toolpath.Dxf.Entity
import Toolpath.Dxf.Object
import Toolpath.Dxf.Read
import Toolpath.Drawing.Load
import Toolpath.Program.Convert
import Toolpath.Settings.JsonText
import Toolpath.Toml.Value
import Toolpath.Toml.Error
import Toolpath.Toml.Builder
import Toolpath.Toml.Scan
import Toolpath.Toml.Read
import Toolpath.Settings.TomlText
import Toolpath.Settings.File
import Toolpath.Cli.Arguments
import Toolpath.Cli.Run
import Toolpath.Main
import Toolpath.Proofs.Motion.Actions
import Toolpath.Proofs.Motion.Cuts
import Toolpath.Proofs.Proximity.Tour
import Toolpath.Proofs.Geometry.Distance
import Toolpath.Proofs.Proximity.Greedy
import Toolpath.Proofs.Program.Outcome
import Toolpath.Proofs.Program.Emission
import Toolpath.Proofs.Program.ToolSafety
import Toolpath.Proofs.Program.Engagement
import Toolpath.Proofs.Program.Skipping
import Toolpath.Proofs.Program.Lines
import Toolpath.Proofs.Program.Endpoints
import Toolpath.Proofs.Motion.Chains
import Toolpath.Proofs.Drawing.Import
import Toolpath.Proofs.Motion.Numbers
import Toolpath.Proofs.Drawing.Sweep
import Toolpath.Proofs.Settings.Persistence
import Toolpath.Proofs.Proximity.Symmetry
import Toolpath.Proofs.Drawing.Turn
import Toolpath.Proofs.Proximity.Unmeasured
import Toolpath.Proofs.Proximity.Idempotence
import Toolpath.Proofs.Settings.Failures
import Toolpath.Proofs.Units.Spellings
