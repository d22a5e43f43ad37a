import SqlBinding.Text.Blank
import SqlBinding.Text.Quoted
import SqlBinding.Text.UpperCase
import SqlBinding.Text.Display
import SqlBinding.Text.AsciiCase
import SqlBinding.Text.Utf8
import SqlBinding.Number.Decimal.Arithmetic
import SqlBinding.Number.Decimal.Significant
import SqlBinding.Number.BinaryText
import SqlBinding.Number.Decimal.OfBinary
import SqlBinding.Number.Decimal.ToFloat
import SqlBinding.Calendar.Date
import SqlBinding.Calendar.Parser
import SqlBinding.Calendar.Printer
import SqlBinding.Sql.SqlType
import SqlBinding.Sql.NativeType
import SqlBinding.Host.Channel
import SqlBinding.Host.Temporal
import SqlBinding.Host.RecordType
import SqlBinding.Host.Literal
import SqlBinding.Host.Equality
import SqlBinding.Host.Conversion
import SqlBinding.Native.Value
import SqlBinding.Error
import SqlBinding.Binding.Scalar
import SqlBinding.Binding.Struct
import SqlBinding.Binding.Converter
import SqlBinding.Driver.Buffered
import SqlBinding.Driver.Recording
import SqlBinding.Binding.Vendor
import SqlBinding.Result.ProcedureCall
import SqlBinding.Driver.Scripted
import SqlBinding.Postgres.Wire
import SqlBinding.Postgres.Call
import SqlBinding.Host.SampleStructs
import SqlBinding.Text.Hex
import SqlBinding.Number.Decimal.Parser
import SqlBinding.Proofs.Struct.Conformance
import SqlBinding.Proofs.Struct.Creations
import SqlBinding.Proofs.Struct.AllOrNothing
import SqlBinding.Proofs.Binding.ParameterList
import SqlBinding.Proofs.Result.CursorRun
import SqlBinding.Proofs.Result.CursorInvariant
import SqlBinding.Proofs.Result.BufferedCursor
import SqlBinding.Proofs.Array.Elements
import SqlBinding.Proofs.Binding.StandardConverter
import SqlBinding.Proofs.Array.ScalarLift
import SqlBinding.Proofs.Driver.Calls
import SqlBinding.Proofs.Struct.CreationOrder
import SqlBinding.Proofs.Binding.TemporalContent
import SqlBinding.Proofs.Binding.CoercionMatrix
import SqlBinding.Proofs.Binding.ConversionEnds
import SqlBinding.Proofs.Binding.ErrorKind
import SqlBinding.Proofs.Result.InferredShape
import SqlBinding.Proofs.Calendar.HostValues
import SqlBinding.Proofs.Binding.StepLaws
import SqlBinding.Proofs.Postgres.CollectedParameters
import SqlBinding.Proofs.Binding.Overflow
import SqlBinding.Proofs.Number.Rational
import SqlBinding.Proofs.Calendar.ExactSeconds
import SqlBinding.Proofs.Postgres.GatheredResults
import SqlBinding.Proofs.Result.Release
import SqlBinding.Proofs.Binding.CustomHooks
import SqlBinding.Proofs.Calendar.CivilParts
import SqlBinding.Proofs.Array.TemporalTag
import SqlBinding.Proofs.Calendar.DayNumbers
import SqlBinding.Proofs.Result.StreamRun
import SqlBinding.Proofs.Result.RowDecoding
import SqlBinding.Proofs.Calendar.ZoneOffsets
import SqlBinding.Proofs.Calendar.DayRange
import SqlBinding.Proofs.Calendar.UtcInstants
import SqlBinding.Proofs.Struct.DeclaredFields
import SqlBinding.Proofs.Calendar.PrintedTimes
import SqlBinding.Proofs.Postgres.TemporalArrays
import SqlBinding.Proofs.Number.SignificantDigits
import SqlBinding.Proofs.Binding.IntegerDecimals
import SqlBinding.Proofs.Binding.BareValues
import SqlBinding.Proofs.Calendar.IsoTexts
import SqlBinding.Proofs.Array.TemporalForms
import SqlBinding.Proofs.Binding.DrainedStreams
import SqlBinding.Proofs.Postgres.CollectorAgreement
import SqlBinding.Proofs.Driver.BufferedResults
import SqlBinding.Proofs.Struct.DerivedStructs
import SqlBinding.Proofs.Postgres.DecodedCells
import SqlBinding.Proofs.Struct.EntryOrder
import SqlBinding.Proofs.Native.ClobChunks
import SqlBinding.Proofs.Binding.WrappedIntegers
