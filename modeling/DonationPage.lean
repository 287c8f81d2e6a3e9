import DonationPage.Text.Blank
import DonationPage.Text.Utf8
import DonationPage.Text.Quoted
import DonationPage.Decimal.Shortest
import DonationPage.Json.Error
import DonationPage.Json.Value
import DonationPage.Json.Payload
import DonationPage.Money
import DonationPage.Intent
import DonationPage.Order
import DonationPage.Settings
import DonationPage.Provider.Capture
import DonationPage.Provider.Subscription
import DonationPage.Forms
import DonationPage.Text.FormData
import DonationPage.Checkout.Run
import DonationPage.Url.Parameters
import DonationPage.Url
import DonationPage.Origin
import DonationPage.Origin.Wire
import DonationPage.Dropdown
import DonationPage.MonthlySeries
import DonationPage.PopupWatch
import DonationPage.Files
import DonationPage.Probe
import DonationPage.Main
import DonationPage.Proofs.Checkout.OrderRequests
import DonationPage.Proofs.Checkout.StageOrder
import DonationPage.Proofs.Checkout.Rejections
import DonationPage.Proofs.Checkout.CompleteIntents
import DonationPage.Proofs.Money.Spelling
import DonationPage.Proofs.Money.Texts
import DonationPage.Proofs.Text.Utf8
import DonationPage.Proofs.Settings.Origin
import DonationPage.Proofs.Text.Percent
import DonationPage.Proofs.Checkout.Redirects
import DonationPage.Proofs.Checkout.RedirectParameters
import DonationPage.Proofs.Json.Reader
import DonationPage.Proofs.Json.Integer
import DonationPage.Proofs.Json.Text
import DonationPage.Proofs.Intent.Loading
import DonationPage.Proofs.Json.Sequence
import DonationPage.Proofs.Json.RoundTrip
import DonationPage.Proofs.Json.Payloads
import DonationPage.Proofs.Origin.Posts
import DonationPage.Proofs.Checkout.ErrorReports
import DonationPage.Proofs.Probe.FirstRequests
import DonationPage.Proofs.Probe.Verdicts
import DonationPage.Proofs.Dropdown.Shown
import DonationPage.Proofs.Checkout.ApprovalOutcomes
import DonationPage.Proofs.Json.Number
import DonationPage.Proofs.Json.Value
import DonationPage.Proofs.PageTags.Elements
import DonationPage.Proofs.FieldErrors.Placement
import DonationPage.Proofs.Money.Layout
import DonationPage.Proofs.Month.Spelling
import DonationPage.Proofs.MonthlySeries.Months
import DonationPage.Proofs.MonthlySeries.Total
import DonationPage.Proofs.PopupWatch.Closing
import DonationPage.Proofs.Json.Tables
import DonationPage.Proofs.Origin.Replies
import DonationPage.Proofs.MonthlySeries.Shown
import DonationPage.Proofs.Url.Behind
