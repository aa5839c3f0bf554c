import SearchQuery.Chain
import SearchQuery.Correspondence
import SearchQuery.Decimal.Binary64
import SearchQuery.Decimal.Notation
import SearchQuery.Decimal.Reading
import SearchQuery.Decimal.Shortest
import SearchQuery.Dictionary
import SearchQuery.Edit
import SearchQuery.Error
import SearchQuery.Event
import SearchQuery.FullText
import SearchQuery.Hydration
import SearchQuery.Json.Basic
import SearchQuery.Json.Fields
import SearchQuery.Json.Printer
import SearchQuery.Json.Reader
import SearchQuery.Node
import SearchQuery.Operand
import SearchQuery.Operator
import SearchQuery.Page
import SearchQuery.Payload
import SearchQuery.Payload.Facet
import SearchQuery.Payload.Hit
import SearchQuery.Payload.Response
import SearchQuery.Payload.Rows
import SearchQuery.Plan
import SearchQuery.Predicate
import SearchQuery.Query
import SearchQuery.Record
import SearchQuery.Record.Document
import SearchQuery.Record.Linked
import SearchQuery.Request
import SearchQuery.Scalar
import SearchQuery.Session
import SearchQuery.Settings
import SearchQuery.Spelling
import SearchQuery.Sql.Condition
import SearchQuery.Sql.Literal
import SearchQuery.Sql.Statement
import SearchQuery.Stored
import SearchQuery.Text.AlphanumericTable
import SearchQuery.Text.Blank
import SearchQuery.Text.CaseTable
import SearchQuery.Text.Letter
import SearchQuery.Text.PrintableTable
import SearchQuery.Text.Quoted
import SearchQuery.Text.Run
import SearchQuery.Text.Separated
import SearchQuery.Timestamp
import SearchQuery.Transport
import SearchQuery.Vicinity
import SearchQuery.Word
import SearchQuery.Proofs.Decimal.Numeral
import SearchQuery.Proofs.Sql.Formula
import SearchQuery.Proofs.Sql.Layout
import SearchQuery.Proofs.Sql.Grouping
import SearchQuery.Proofs.Sql.Reading
import SearchQuery.Proofs.Node
import SearchQuery.Proofs.Clauses
import SearchQuery.Proofs.Sql.Contents
import SearchQuery.Proofs.Statement
import SearchQuery.Proofs.Entries
import SearchQuery.Proofs.Range
import SearchQuery.Proofs.Dictionary
import SearchQuery.Proofs.Correspondence
import SearchQuery.Proofs.LetterCase
import SearchQuery.Proofs.Identifier
import SearchQuery.Proofs.Hydration
import SearchQuery.Proofs.Calls
import SearchQuery.Proofs.Json.Reader
import SearchQuery.Proofs.Json.Text
import SearchQuery.Proofs.Views
import SearchQuery.Proofs.Json.Members
import SearchQuery.Proofs.Request
import SearchQuery.Proofs.Agreement
import SearchQuery.Proofs.Decimal.Interval
import SearchQuery.Proofs.Decimal.Shortest
import SearchQuery.Proofs.Decimal.ReadBack
import SearchQuery.Proofs.Lossless
import SearchQuery.Proofs.Body
import SearchQuery.Proofs.Decimal.Whole
import SearchQuery.Proofs.Json.Fields
import SearchQuery.Proofs.Response
import SearchQuery.Proofs.Answers
import SearchQuery.Proofs.Pagination
import SearchQuery.Proofs.Total
import SearchQuery.Proofs.Events
import SearchQuery.Proofs.Wishes
import SearchQuery.Proofs.Resolution
import SearchQuery.Proofs.Priority
import SearchQuery.Proofs.Casts
import SearchQuery.Proofs.Decimal.Grammar
import SearchQuery.Proofs.Sql.Literal
import SearchQuery.Proofs.Plucked
import SearchQuery.Proofs.Stored
import SearchQuery.Proofs.Aggregations
import SearchQuery.Proofs.EagerLoads
import SearchQuery.Proofs.Spelling
