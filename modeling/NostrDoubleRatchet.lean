import NostrDoubleRatchet.SenderKey.BlindRefinement
import NostrDoubleRatchet.SenderKey.Delivery
import NostrDoubleRatchet.Session.Skipped
import NostrDoubleRatchet.SessionManager.Retention
import NostrDoubleRatchet.SessionManager.Authorization
import NostrDoubleRatchet.SessionManager.SendFailure
import NostrDoubleRatchet.Pairwise.RoundTrip
import NostrDoubleRatchet.Group.SendAtomicity
import NostrDoubleRatchet.Group.BackwardExclusion
import NostrDoubleRatchet.SessionManager.Completeness
import NostrDoubleRatchet.Pairwise.Lineage
import NostrDoubleRatchet.Pairwise.SubscriptionHost
import NostrDoubleRatchet.Pairwise.FileStoreRuns
import NostrDoubleRatchet.TypeScript.OutboxRuns
import NostrDoubleRatchet.TypeScript.GroupRuns
import NostrDoubleRatchet.TypeScript.AppKeysRuns
import NostrDoubleRatchet.TypeScript.SenderKeyAgreement
import NostrDoubleRatchet.TypeScript.RosterAgreement
import NostrDoubleRatchet.TypeScript.RosterProjection
import NostrDoubleRatchet.TypeScript.AppKeysEvents
import NostrDoubleRatchet.TypeScript.AppKeysAgreement
import NostrDoubleRatchet.TypeScript.RegistrationGate
import NostrDoubleRatchet.TypeScript.OwnRoster
import NostrDoubleRatchet.TypeScript.OwnRosterRuns
import NostrDoubleRatchet.TypeScript.OwnRosterRestarts
import NostrDoubleRatchet.TypeScript.SessionRecords
import NostrDoubleRatchet.TypeScript.SessionStorage
import NostrDoubleRatchet.TypeScript.SendSelection
import NostrDoubleRatchet.Pairwise.SubscriptionSize
import NostrDoubleRatchet.Group.Revisions
import NostrDoubleRatchet.Group.MetadataConvergence
import NostrDoubleRatchet.SessionManager.InviteResponses
import NostrDoubleRatchet.SessionManager.FanOut
import NostrDoubleRatchet.InviteCodec
import NostrDoubleRatchet.Session.ResponderKeys
import NostrDoubleRatchet.TypeScript.RuntimeSubscriptions
import NostrDoubleRatchet.TypeScript.TrackedAuthors
import NostrDoubleRatchet.TypeScript.ExactlyOnce
import NostrDoubleRatchet.RequiredDevice
import NostrDoubleRatchet.ConversationRouting
import NostrDoubleRatchet.TypeScript.RegistrationSnapshot
import NostrDoubleRatchet.DeviceLink
import NostrDoubleRatchet.TypeScript.DeviceLink
import NostrDoubleRatchet.TypeScript.SendAtomicity
import NostrDoubleRatchet.TypeScript.ReceiveMemo
import NostrDoubleRatchet.TypeScript.DirectMessageSubscription
