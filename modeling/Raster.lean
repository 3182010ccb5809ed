import Raster.Algorithm.Algorithm
import Raster.Algorithm.Apply
import Raster.Algorithm.Capabilities
import Raster.Blur.Boundary
import Raster.Blur.Kernel
import Raster.Blur.Line
import Raster.Blur.Tap
import Raster.Bytes.CanonicalCode
import Raster.Bytes.Checksum
import Raster.Bytes.Endian
import Raster.Channels
import Raster.CommandLine.Arguments
import Raster.CommandLine.Failure
import Raster.CommandLine.Merge
import Raster.CommandLine.Plan
import Raster.CommandLine.Run
import Raster.CommandLine.Settings
import Raster.Convert.Image
import Raster.Convert.Pixel
import Raster.Convert.Route
import Raster.Convert.Sample
import Raster.Convert.Settings
import Raster.Deflate.BitSource
import Raster.Deflate.Inflate
import Raster.Deflate.Stored
import Raster.Error
import Raster.Extension.CharSet
import Raster.Extension.Edit
import Raster.Extension.Matcher
import Raster.Extension.Pattern
import Raster.Extension.PatternAtom
import Raster.Extension.PatternEngine
import Raster.Extension.PatternSyntax
import Raster.Extension.Table
import Raster.Files.Access
import Raster.Files.FileTree
import Raster.Files.Session
import Raster.Format.Codec
import Raster.Format.Coding
import Raster.Format.Content
import Raster.Format.Encoding
import Raster.Format.FileFormat
import Raster.Format.Files
import Raster.Format.Loading
import Raster.Format.Picture
import Raster.Format.Properties
import Raster.Format.Resolve
import Raster.Format.Samples
import Raster.Format.Saving
import Raster.Fourier.Grid
import Raster.Fourier.Line
import Raster.Fourier.Spectrum
import Raster.Grid.Basic
import Raster.Grid.Edit
import Raster.Grid.Odometer
import Raster.Grid.Rotate
import Raster.Grid.Shape
import Raster.Grid.Sweep
import Raster.Image
import Raster.Intensity
import Raster.Jpeg.Colour
import Raster.Jpeg.Cosine
import Raster.Jpeg.Decode
import Raster.Jpeg.Encode
import Raster.Jpeg.Entropy
import Raster.Jpeg.Frame
import Raster.Jpeg.Tables
import Raster.Json.Document
import Raster.Json.Json
import Raster.Json.Library
import Raster.Json.Number
import Raster.Json.Printer
import Raster.Json.Token
import Raster.Labelled
import Raster.Main
import Raster.Number.Binary64
import Raster.Number.Decimal
import Raster.Number.Numeral
import Raster.Options.OptionValue
import Raster.Options.Options
import Raster.Options.OptionsJson
import Raster.Path
import Raster.Pixel.Pixel
import Raster.Pixel.PixelType
import Raster.Png.Chunk
import Raster.Png.Decode
import Raster.Png.Encode
import Raster.Png.Filter
import Raster.Png.Header
import Raster.Png.Pass
import Raster.Png.Raw
import Raster.Proofs.Algorithm.Capabilities
import Raster.Proofs.Algorithm.Chain
import Raster.Proofs.Algorithm.GrayLevels
import Raster.Proofs.Algorithm.Outcome
import Raster.Proofs.Algorithm.Outputs
import Raster.Proofs.Algorithm.Settings
import Raster.Proofs.Blur.Constant
import Raster.Proofs.Blur.Local
import Raster.Proofs.Blur.Single
import Raster.Proofs.Blur.Tap
import Raster.Proofs.Channels.Component
import Raster.Proofs.Channels.Filters
import Raster.Proofs.Channels.Separable
import Raster.Proofs.CommandLine.Descendants
import Raster.Proofs.CommandLine.Effects
import Raster.Proofs.CommandLine.Merge
import Raster.Proofs.CommandLine.Plan
import Raster.Proofs.CommandLine.Reading
import Raster.Proofs.CommandLine.Writes
import Raster.Proofs.Convert.Depths
import Raster.Proofs.Convert.Expansions
import Raster.Proofs.Convert.Hubs
import Raster.Proofs.Deflate.Stored
import Raster.Proofs.Extension.Edits
import Raster.Proofs.Extension.Live
import Raster.Proofs.Extension.Ranking
import Raster.Proofs.Extension.Table
import Raster.Proofs.Files.ReadBack
import Raster.Proofs.Files.Tree
import Raster.Proofs.Format.Codec
import Raster.Proofs.Format.Resolve
import Raster.Proofs.Format.RoundTrip
import Raster.Proofs.Format.Samples
import Raster.Proofs.Format.Saving
import Raster.Proofs.Fourier.Centring
import Raster.Proofs.Fourier.Shift
import Raster.Proofs.Grid.Coordinate
import Raster.Proofs.Grid.Edit
import Raster.Proofs.Grid.Lines
import Raster.Proofs.Grid.Odometer
import Raster.Proofs.Grid.Place
import Raster.Proofs.Grid.Shift
import Raster.Proofs.Grid.Sweep
import Raster.Proofs.Intensity.Stretch
import Raster.Proofs.Json.Library
import Raster.Proofs.Json.Number
import Raster.Proofs.Json.RoundTrip
import Raster.Proofs.Json.Text
import Raster.Proofs.Labelled
import Raster.Proofs.Number.Level
import Raster.Proofs.Number.Magnitude
import Raster.Proofs.Number.Nearest
import Raster.Proofs.Number.Numeral
import Raster.Proofs.Number.Rounding
import Raster.Proofs.Number.Value
import Raster.Proofs.Number.Whole
import Raster.Proofs.Options.Lookup
import Raster.Proofs.Options.RoundTrip
import Raster.Proofs.Path.Extension
import Raster.Proofs.Path.Names
import Raster.Proofs.Path.Settled
import Raster.Proofs.Png.Chunks
import Raster.Proofs.Png.Rows
import Raster.Proofs.Resize.Band
import Raster.Proofs.Resize.Gather
import Raster.Proofs.Resize.Identity
import Raster.Proofs.Resize.Resize
import Raster.Proofs.Resize.Target
import Raster.Proofs.Rgba
import Raster.Proofs.Schema.Defaults
import Raster.Proofs.Schema.Enclosure
import Raster.Proofs.Schema.Finalize
import Raster.Proofs.Schema.Placement
import Raster.Proofs.Schema.Reading
import Raster.Proofs.Schema.RoundTrip
import Raster.Proofs.Schema.Unknown
import Raster.Proofs.Schema.Validity
import Raster.Proofs.Store.Applying
import Raster.Proofs.Store.Conversion
import Raster.Proofs.Store.Filters
import Raster.Proofs.Store.Run
import Raster.Proofs.Store.Seen
import Raster.Proofs.Store.Sharing
import Raster.Proofs.Store.Work
import Raster.Proofs.Store.Write
import Raster.Proofs.Text.Parts
import Raster.Proofs.Traversal
import Raster.Resize.AntiAlias
import Raster.Resize.Gather
import Raster.Resize.Image
import Raster.Resize.Nearest
import Raster.Resize.Target
import Raster.Rgba
import Raster.Schema.Schema
import Raster.Schema.SchemaJson
import Raster.Schema.SchemaText
import Raster.Store.Apply
import Raster.Store.Convert
import Raster.Store.Operation
import Raster.Store.Store
import Raster.Store.Work
import Raster.Text.Blank
import Raster.Text.Quoted
import Raster.Text.Split
import Raster.Text.Unprintable
import Raster.Text.Utf8
import Raster.Version
