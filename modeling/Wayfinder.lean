import Wayfinder.Action
import Wayfinder.Config
import Wayfinder.Context
import Wayfinder.Guard
import Wayfinder.History
import Wayfinder.Log
import Wayfinder.Navigator.InPlace
import Wayfinder.Navigator.Navigate
import Wayfinder.Navigator.Setup
import Wayfinder.Navigator.State
import Wayfinder.Outcome
import Wayfinder.Pages.PageController
import Wayfinder.Parameters
import Wayfinder.Parameters.Percent
import Wayfinder.Parameters.Reading
import Wayfinder.Parameters.Segment
import Wayfinder.Pattern
import Wayfinder.Pattern.Compile
import Wayfinder.Pattern.Segment
import Wayfinder.Proofs.Admission
import Wayfinder.Proofs.Course
import Wayfinder.Proofs.Courtesy
import Wayfinder.Proofs.Entries
import Wayfinder.Proofs.Lookup
import Wayfinder.Proofs.Moment
import Wayfinder.Proofs.Pipeline
import Wayfinder.Proofs.Refusal
import Wayfinder.Proofs.Resolve
import Wayfinder.Proofs.Serial
import Wayfinder.Proofs.Service
import Wayfinder.RecentMap
import Wayfinder.Regex.CharSet
import Wayfinder.Regex.Expr
import Wayfinder.Regex.Guide
import Wayfinder.Regex.Parser
import Wayfinder.ResolveCache
import Wayfinder.Route
import Wayfinder.RouteTable
import Wayfinder.Scroll
import Wayfinder.Session.Behaviour
import Wayfinder.Session.Board
import Wayfinder.Session.Run
import Wayfinder.Session.Script
import Wayfinder.Session.Step
import Wayfinder.Subject
import Wayfinder.Text.Blank
import Wayfinder.Text.CaseFold
import Wayfinder.Text.Category
import Wayfinder.Text.Category.Table
import Wayfinder.Text.Fixed
import Wayfinder.Text.Layout
import Wayfinder.Text.Property
import Wayfinder.Text.Quoted
import Wayfinder.Text.Script
import Wayfinder.Workspace.Pages
import Wayfinder.Workspace.State
import Wayfinder.Workspace.Tasks
import Wayfinder.Proofs.Onward
import Wayfinder.Proofs.Turns
import Wayfinder.Proofs.LastRequest
import Wayfinder.Proofs.Scripted
import Wayfinder.Proofs.Awaiting
import Wayfinder.Proofs.RoundTrip
import Wayfinder.Proofs.Letters
import Wayfinder.Proofs.PathSearch
import Wayfinder.Proofs.PatternText
import Wayfinder.Proofs.PatternMeaning
import Wayfinder.Proofs.Sharing
import Wayfinder.Proofs.Keepsakes
import Wayfinder.Proofs.Restoring
import Wayfinder.Proofs.Custody
import Wayfinder.Proofs.ParameterMap
import Wayfinder.Proofs.Carriage
import Wayfinder.Proofs.AtRest
import Wayfinder.Proofs.Redirects
import Wayfinder.Proofs.Likeness
import Wayfinder.Proofs.Deferral
import Wayfinder.Proofs.Errands
import Wayfinder.Proofs.Scrolling
import Wayfinder.Proofs.Consent
import Wayfinder.Proofs.Workings
import Wayfinder.Proofs.Discretion
import Wayfinder.Proofs.Hosts
import Wayfinder.Proofs.Minutes
import Wayfinder.Proofs.Views
import Wayfinder.Proofs.Thrift
import Wayfinder.Proofs.Address
import Wayfinder.Proofs.Decoding
import Wayfinder.Proofs.Readings
import Wayfinder.Proofs.Broadcast
import Wayfinder.Proofs.Boards
import Wayfinder.Proofs.Undone
import Wayfinder.Proofs.Detours
import Wayfinder.Proofs.Paging
import Wayfinder.Proofs.Chains
import Wayfinder.Proofs.Reversal
import Wayfinder.Proofs.Startup
import Wayfinder.Proofs.Locality
import Wayfinder.Proofs.LocalSigns
import Wayfinder.Proofs.Enclosure
import Wayfinder.Proofs.Spans
import Wayfinder.Proofs.GroupNames
import Wayfinder.Proofs.Confinement
import Wayfinder.Proofs.SegmentWords
import Wayfinder.Proofs.BackStack
import Wayfinder.Proofs.RecentKeys
import Wayfinder.Proofs.Recency
import Wayfinder.Proofs.Eviction
import Wayfinder.Proofs.PageNumbers
import Wayfinder.Proofs.PageBounds
import Wayfinder.Proofs.PageReading
import Wayfinder.Proofs.Balance
import Wayfinder.Proofs.Offsets
