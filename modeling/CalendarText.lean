import CalendarText.Component.Record
import CalendarText.Description.Describe
import CalendarText.Failure.Conversion
import CalendarText.Failure.Narrow
import CalendarText.Item.Narrow
import CalendarText.Item.Needs
import CalendarText.Proofs.Calendar.Exchange
import CalendarText.Proofs.Calendar.IsoWeek
import CalendarText.Proofs.Calendar.IsoYear
import CalendarText.Proofs.Calendar.Thursday
import CalendarText.Proofs.Calendar.WeekCount
import CalendarText.Proofs.Description.Flaw
import CalendarText.Proofs.Description.Meaning
import CalendarText.Proofs.Description.Seam
import CalendarText.Proofs.Failure.Narrowing
import CalendarText.Proofs.Failure.Object
import CalendarText.Proofs.Failure.Wrapping
import CalendarText.Proofs.Fields.DateOutcome
import CalendarText.Proofs.Fields.Offset
import CalendarText.Proofs.Item.EqualRows
import CalendarText.Proofs.Item.Equality
import CalendarText.Proofs.Reading.Independence
import CalendarText.Proofs.Reading.Inverse
import CalendarText.Proofs.Reading.Lookahead
import CalendarText.Proofs.Reading.Number
import CalendarText.Proofs.Reading.Operation
import CalendarText.Proofs.Reading.Stages
import CalendarText.Proofs.Rfc3339.Agreement
import CalendarText.Proofs.Rfc3339.RoundTrip
import CalendarText.Proofs.Rfc3339.Zone
import CalendarText.Proofs.RoundTrip
import CalendarText.Proofs.Session.Transparency
import CalendarText.Proofs.Settings.Fallback
import CalendarText.Proofs.Settings.Precedence
import CalendarText.Proofs.Writing.Capabilities
import CalendarText.Session
