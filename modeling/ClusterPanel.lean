import ClusterPanel.Main
import ClusterPanel.Proofs.CredentialProtocol
import ClusterPanel.Session.Observation
import ClusterPanel.Proofs.JsonReading
import ClusterPanel.Proofs.RecordStorage
import ClusterPanel.Proofs.Timestamps
import ClusterPanel.Proofs.Restart
import ClusterPanel.Proofs.ObservedRuns
import ClusterPanel.Proofs.WriteThrough
import ClusterPanel.Proofs.Notifications
import ClusterPanel.Proofs.ObserverHistories
import ClusterPanel.Proofs.HeldInstants
import ClusterPanel.Proofs.LastHeard
import ClusterPanel.Proofs.LoginUrl
import ClusterPanel.Proofs.TimestampSpellings
import ClusterPanel.Proofs.AlikeTrees
import ClusterPanel.Proofs.PassedOver
import ClusterPanel.Proofs.TwinSessions
import ClusterPanel.Proofs.TwinObservers
import ClusterPanel.Proofs.TokenSecrecy
import ClusterPanel.Proofs.IntegerReading
import ClusterPanel.Proofs.RecordReading
import ClusterPanel.Proofs.WireRecords
import ClusterPanel.Proofs.DetachedObservers
import ClusterPanel.Proofs.CommandParts
import ClusterPanel.Proofs.OneRequest
import ClusterPanel.Proofs.LoginOutcome
import ClusterPanel.Proofs.UnseenFailures
import ClusterPanel.Proofs.HeaderMerge
import ClusterPanel.Proofs.RequestUrl
import ClusterPanel.Proofs.ServingFiles
import ClusterPanel.Proofs.CommandRuns
import ClusterPanel.Proofs.ValueReading
import ClusterPanel.Proofs.LosslessOutput
import ClusterPanel.Proofs.EventLines
import ClusterPanel.Proofs.UnsetTimes
import ClusterPanel.Proofs.DistinctDates
import ClusterPanel.Proofs.ResponseClasses
import ClusterPanel.Proofs.PlainPaths
import ClusterPanel.Proofs.GroundedTrees
import ClusterPanel.Proofs.LoginLifetimes
import ClusterPanel.Proofs.AtomicSaving
import ClusterPanel.Proofs.Ages
import ClusterPanel.Proofs.ShownExpiries
import ClusterPanel.Proofs.ResourceUrls
import ClusterPanel.Proofs.SharedSettings
import ClusterPanel.Proofs.TableWalk
import ClusterPanel.Proofs.SentSubmissions
