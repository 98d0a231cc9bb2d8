import ChannelSearch.Calendar.Date
import ChannelSearch.Calendar.IsoDate
import ChannelSearch.Calendar.Millis
import ChannelSearch.Calendar.Moment
import ChannelSearch.ChannelScope
import ChannelSearch.CommandLine.Command
import ChannelSearch.CommandLine.Grammar
import ChannelSearch.Condition.Basic
import ChannelSearch.Condition.FileWords
import ChannelSearch.Condition.Limits
import ChannelSearch.Condition.Words
import ChannelSearch.DateFilter
import ChannelSearch.Export.Load
import ChannelSearch.Export.Record
import ChannelSearch.Json.Basic
import ChannelSearch.Json.Convert
import ChannelSearch.Json.Display
import ChannelSearch.Json.Reader
import ChannelSearch.Json.Writer
import ChannelSearch.Main
import ChannelSearch.MergedText
import ChannelSearch.Number.Binary64
import ChannelSearch.Number.Rounding
import ChannelSearch.Number.Shortest
import ChannelSearch.Number.SignedWord
import ChannelSearch.Program.Run
import ChannelSearch.Program.Workspace
import ChannelSearch.Proofs.AlikeConditions
import ChannelSearch.Proofs.AlikeRequests
import ChannelSearch.Proofs.AuthorSearches
import ChannelSearch.Proofs.Authors
import ChannelSearch.Proofs.BuiltQueries
import ChannelSearch.Proofs.ChannelAccess
import ChannelSearch.Proofs.ClauseMeaning
import ChannelSearch.Proofs.ConditionTree
import ChannelSearch.Proofs.DateTiling
import ChannelSearch.Proofs.DateWindows
import ChannelSearch.Proofs.DayNumbers
import ChannelSearch.Proofs.EmptyQueries
import ChannelSearch.Proofs.EscapeMarks
import ChannelSearch.Proofs.EscapedPatterns
import ChannelSearch.Proofs.Escaping
import ChannelSearch.Proofs.FileQueries
import ChannelSearch.Proofs.FileSearch
import ChannelSearch.Proofs.FileTexts
import ChannelSearch.Proofs.HiddenPosts
import ChannelSearch.Proofs.ImportAgain
import ChannelSearch.Proofs.ImportOverlay
import ChannelSearch.Proofs.ImportRuns
import ChannelSearch.Proofs.ImportSteps
import ChannelSearch.Proofs.ImportedContents
import ChannelSearch.Proofs.InterleavedWrites
import ChannelSearch.Proofs.IsoDates
import ChannelSearch.Proofs.JsonTexts
import ChannelSearch.Proofs.LikePatterns
import ChannelSearch.Proofs.LogLines
import ChannelSearch.Proofs.LogTexts
import ChannelSearch.Proofs.LowerCase
import ChannelSearch.Proofs.LowerForms
import ChannelSearch.Proofs.MalformedRecords
import ChannelSearch.Proofs.MergedTokens
import ChannelSearch.Proofs.Moments
import ChannelSearch.Proofs.Needles
import ChannelSearch.Proofs.NullFields
import ChannelSearch.Proofs.PagePartition
import ChannelSearch.Proofs.PageReads
import ChannelSearch.Proofs.PieceOrder
import ChannelSearch.Proofs.Pieces
import ChannelSearch.Proofs.PostQueries
import ChannelSearch.Proofs.PostSearch
import ChannelSearch.Proofs.PrintedDays
import ChannelSearch.Proofs.PrintedLines
import ChannelSearch.Proofs.QuotePairs
import ChannelSearch.Proofs.QuoteSegments
import ChannelSearch.Proofs.ReadDates
import ChannelSearch.Proofs.ReadProtocol
import ChannelSearch.Proofs.RequestFields
import ChannelSearch.Proofs.RequestReading
import ChannelSearch.Proofs.Rounding
import ChannelSearch.Proofs.RowWrites
import ChannelSearch.Proofs.ScopePartition
import ChannelSearch.Proofs.SearchBoxContents
import ChannelSearch.Proofs.SearchBoxTokens
import ChannelSearch.Proofs.SearchFailures
import ChannelSearch.Proofs.SearchRuns
import ChannelSearch.Proofs.SearchShapes
import ChannelSearch.Proofs.SelectPlans
import ChannelSearch.Proofs.SentTexts
import ChannelSearch.Proofs.SettingsSources
import ChannelSearch.Proofs.SqlReading
import ChannelSearch.Proofs.StatementShapes
import ChannelSearch.Proofs.Statements
import ChannelSearch.Proofs.StoreRows
import ChannelSearch.Proofs.StoreWrites
import ChannelSearch.Proofs.TextConditions
import ChannelSearch.Proofs.TextMeaning
import ChannelSearch.Proofs.TokenCounts
import ChannelSearch.Proofs.TokenForms
import ChannelSearch.Proofs.TokenTexts
import ChannelSearch.Proofs.TypedDates
import ChannelSearch.Proofs.TypedWords
import ChannelSearch.Proofs.VisibleChannels
import ChannelSearch.Proofs.WordExclusion
import ChannelSearch.Proofs.WordOccurrences
import ChannelSearch.Proofs.WordOrder
import ChannelSearch.Proofs.WordPlaces
import ChannelSearch.Proofs.Words
import ChannelSearch.Proofs.WrittenExtensions
import ChannelSearch.Proofs.WrittenNames
import ChannelSearch.Request.Basic
import ChannelSearch.Request.Fields
import ChannelSearch.Search.Files
import ChannelSearch.Search.Page
import ChannelSearch.Search.Posts
import ChannelSearch.Search.Query
import ChannelSearch.Search.Reader
import ChannelSearch.SearchBox.Contents
import ChannelSearch.SearchBox.Token
import ChannelSearch.Settings.Basic
import ChannelSearch.Settings.Environment
import ChannelSearch.Sql.Clause
import ChannelSearch.Sql.Pattern
import ChannelSearch.Sql.Select
import ChannelSearch.Sql.Test
import ChannelSearch.Store.Basic
import ChannelSearch.Store.Read
import ChannelSearch.Store.Snapshot
import ChannelSearch.Store.Write
import ChannelSearch.Text.Basic
import ChannelSearch.Text.Blank
import ChannelSearch.Text.CharRange
import ChannelSearch.Text.DigitTable
import ChannelSearch.Text.Flag
import ChannelSearch.Text.Integer
import ChannelSearch.Text.LetterCase
import ChannelSearch.Text.LogLine
import ChannelSearch.Text.LowerTable
import ChannelSearch.Text.Phrase
import ChannelSearch.Text.PrintTable
import ChannelSearch.Text.Quoted
import ChannelSearch.Text.UpperTable
import ChannelSearch.Tokens
import ChannelSearch.Trace
import ChannelSearch.UserQuery
