import PartialLeastSquares.Config
import PartialLeastSquares.Config.File
import PartialLeastSquares.Data.NdArray
import PartialLeastSquares.Data.Operations
import PartialLeastSquares.Data.Source
import PartialLeastSquares.Decimal.Binary
import PartialLeastSquares.Decimal.Layout
import PartialLeastSquares.Decimal.Literal
import PartialLeastSquares.Decimal.Rounding
import PartialLeastSquares.Decimal.Shortest
import PartialLeastSquares.Failure
import PartialLeastSquares.Json.Reader
import PartialLeastSquares.Json.Text
import PartialLeastSquares.Json.Writer
import PartialLeastSquares.Kernel
import PartialLeastSquares.Kernel.Centering
import PartialLeastSquares.Kernel.Function
import PartialLeastSquares.Linear.Elimination
import PartialLeastSquares.Linear.Guard
import PartialLeastSquares.Linear.Jacobi
import PartialLeastSquares.Linear.Machine
import PartialLeastSquares.Linear.Mat
import PartialLeastSquares.Linear.Vec
import PartialLeastSquares.Logging.Duration
import PartialLeastSquares.Logging.Level
import PartialLeastSquares.Logging.Record
import PartialLeastSquares.Logging.Setup
import PartialLeastSquares.Method.Extraction
import PartialLeastSquares.Method.KernelPls
import PartialLeastSquares.Method.OrthogonalFilter
import PartialLeastSquares.Method.Pls1
import PartialLeastSquares.Method.Simpls
import PartialLeastSquares.Model
import PartialLeastSquares.Model.Check
import PartialLeastSquares.Model.Error
import PartialLeastSquares.Model.Estimator
import PartialLeastSquares.Model.Event
import PartialLeastSquares.Model.Fit
import PartialLeastSquares.Model.Fitted
import PartialLeastSquares.Model.Score
import PartialLeastSquares.Preprocessing
import PartialLeastSquares.Proofs.Chain
import PartialLeastSquares.Proofs.Extraction
import PartialLeastSquares.Proofs.Deflation
import PartialLeastSquares.Proofs.Exact.Columns
import PartialLeastSquares.Proofs.Exact.Guard
import PartialLeastSquares.Proofs.Exact.Scalar
import PartialLeastSquares.Proofs.LeastSquares
import PartialLeastSquares.Proofs.Outcome
import PartialLeastSquares.Proofs.Pls1.Component
import PartialLeastSquares.Proofs.Pls1.Decomposition
import PartialLeastSquares.Random.Generator
import PartialLeastSquares.Random.Normal
import PartialLeastSquares.Random.Seed
import PartialLeastSquares.Scalar
import PartialLeastSquares.Text.Digit
import PartialLeastSquares.Text.Percent
import PartialLeastSquares.Text.Printable
import PartialLeastSquares.Text.Quoted
import PartialLeastSquares.Value
import PartialLeastSquares.Yaml.Bytes
import PartialLeastSquares.Yaml.Cursor
import PartialLeastSquares.Yaml.Error
import PartialLeastSquares.Yaml.Lexer
import PartialLeastSquares.Yaml.Node
import PartialLeastSquares.Yaml.Reader
import PartialLeastSquares.Yaml.Scalar
import PartialLeastSquares.Yaml.Style
import PartialLeastSquares.Yaml.Tag
import PartialLeastSquares.Yaml.Time
import PartialLeastSquares.Yaml.Token
import PartialLeastSquares.Yaml.Writer
import PartialLeastSquares.Proofs.Pls1.Regression
import PartialLeastSquares.Proofs.Exact.Tools
import PartialLeastSquares.Proofs.Pls1.Optimality
import PartialLeastSquares.Proofs.Projector
import PartialLeastSquares.Proofs.Simpls.Component
import PartialLeastSquares.Proofs.Simpls.Regression
import PartialLeastSquares.Proofs.Model.Training
import PartialLeastSquares.Proofs.Model.Prediction
import PartialLeastSquares.Proofs.Simpls.Agreement
import PartialLeastSquares.Proofs.Preprocessing
import PartialLeastSquares.Proofs.Model.Refusal
import PartialLeastSquares.Proofs.KernelPls.Component
import PartialLeastSquares.Proofs.KernelPls.Deflation
import PartialLeastSquares.Proofs.KernelPls.Regression
import PartialLeastSquares.Proofs.LinearKernel
import PartialLeastSquares.Proofs.KernelPls.Agreement
import PartialLeastSquares.Model.Object
import PartialLeastSquares.Proofs.Settings
import PartialLeastSquares.Proofs.Model.Learned
import PartialLeastSquares.Proofs.Model.Lifecycle
import PartialLeastSquares.Proofs.Model.Configure
import PartialLeastSquares.Proofs.OrthogonalFilter.Component
import PartialLeastSquares.Proofs.OrthogonalFilter.Filtering
import PartialLeastSquares.Proofs.Rescaling.Arithmetic
import PartialLeastSquares.Proofs.Rescaling.Correspondence
import PartialLeastSquares.Proofs.Rescaling.Data
import PartialLeastSquares.Proofs.Rescaling.Pls1
import PartialLeastSquares.Proofs.Rescaling.OrthogonalFilter
import PartialLeastSquares.Proofs.Rescaling.Simpls
import PartialLeastSquares.Proofs.Rescaling.KernelPls
import PartialLeastSquares.Proofs.Rescaling.Training
import PartialLeastSquares.Proofs.Rescaling.Model
import PartialLeastSquares.Proofs.Model.Nesting
import PartialLeastSquares.Proofs.KernelPls.Preparation
import PartialLeastSquares.Proofs.Model.TrainingMeans
import PartialLeastSquares.Proofs.OrthogonalFilter.Agreement
import PartialLeastSquares.Proofs.RowByRow
import PartialLeastSquares.Proofs.Model.RowByRow
import PartialLeastSquares.Proofs.Rank
import PartialLeastSquares.Proofs.KernelPls.Rank
import PartialLeastSquares.Proofs.Model.Capacity
import PartialLeastSquares.Proofs.Acceptance
import PartialLeastSquares.Proofs.ConfigRoundTrip
import PartialLeastSquares.Proofs.Reordering.Arithmetic
import PartialLeastSquares.Proofs.Reordering.Data
import PartialLeastSquares.Proofs.Reordering.Pls1
import PartialLeastSquares.Proofs.Reordering.Simpls
import PartialLeastSquares.Proofs.Reordering.OrthogonalFilter
import PartialLeastSquares.Proofs.Reordering.KernelPls
import PartialLeastSquares.Proofs.Reordering.Training
import PartialLeastSquares.Proofs.Model.Matrices
import PartialLeastSquares.Proofs.Model.Replay
import PartialLeastSquares.Proofs.Model.ComponentCount
import PartialLeastSquares.Proofs.Reordering.Model
import PartialLeastSquares.Proofs.ColumnUnits.Data
import PartialLeastSquares.Proofs.ColumnUnits.Idle
import PartialLeastSquares.Proofs.ColumnUnits.Training
import PartialLeastSquares.Proofs.ColumnUnits.Model
import PartialLeastSquares.Proofs.Simpls.Projection
import PartialLeastSquares.Proofs.KernelPls.Decomposition
import PartialLeastSquares.Proofs.KernelPls.FixedPoint
import PartialLeastSquares.Proofs.KernelPls.Seeds
import PartialLeastSquares.Proofs.Exact.Float
import PartialLeastSquares.Proofs.KernelPls.Iteration
import PartialLeastSquares.Proofs.Model.FullRank
import PartialLeastSquares.Proofs.Model.NewRows
import PartialLeastSquares.Proofs.OrthogonalFilter.Orthogonality
import PartialLeastSquares.Proofs.Simpls.Thinning
import PartialLeastSquares.Proofs.KernelPls.Centering
import PartialLeastSquares.Proofs.Transform
import PartialLeastSquares.Proofs.Validation
import PartialLeastSquares.Proofs.Logging.Clock
import PartialLeastSquares.Proofs.Logging.Session
