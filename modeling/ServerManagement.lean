import ServerManagement.Client.Named
import ServerManagement.Console.Monitor
import ServerManagement.Correlation.Named
import ServerManagement.Main
import ServerManagement.Notice.Named
import ServerManagement.Proofs.Calendar.ExpiryReading
import ServerManagement.Proofs.Client.ArgumentCourse
import ServerManagement.Proofs.Client.BannedAddresses
import ServerManagement.Proofs.Client.KickCourse
import ServerManagement.Proofs.Correlation.OnceAnswered
import ServerManagement.Proofs.Correlation.RefusedRegistrations
import ServerManagement.Proofs.Envelope.LayoutIndependence
import ServerManagement.Proofs.Envelope.RemoteErrors
import ServerManagement.Proofs.Envelope.RoundTrip
import ServerManagement.Proofs.Envelope.TwoStages
import ServerManagement.Proofs.Envelope.TypedPayloads
import ServerManagement.Proofs.Link.EndpointTexts
import ServerManagement.Proofs.Notice.BoardQueues
import ServerManagement.Proofs.Server.RuleValues
import ServerManagement.Proofs.Server.VersionNumbers
import ServerManagement.Proofs.Session.AbandonedCall
import ServerManagement.Proofs.Session.BackPressure
import ServerManagement.Proofs.Session.CallFate
import ServerManagement.Proofs.Session.EndOfNotices
import ServerManagement.Proofs.Session.FirstClose
import ServerManagement.Proofs.Session.ForgottenCall
import ServerManagement.Proofs.Session.InboundEnd
import ServerManagement.Proofs.Session.PendingTable
import ServerManagement.Proofs.Session.SlotSafety
import ServerManagement.Proofs.Session.StreamTopics
import ServerManagement.Proofs.Session.Subscriptions
import ServerManagement.Proofs.Session.TopicIsolation
import ServerManagement.Proofs.Session.Transmission
import ServerManagement.Proofs.Session.UnlistedFrames
import ServerManagement.Proofs.Session.UnmatchedResponses
import ServerManagement.Proofs.Session.UnsentCalls
import ServerManagement.Scenario.Step
import ServerManagement.Wire.Pair
import ServerManagement.Proofs.Envelope.RemoteErrors
import ServerManagement.Proofs.Envelope.TypedPayloads
