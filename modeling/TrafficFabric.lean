import TrafficFabric.ZeroRates
import TrafficFabric.CongestionResponse
import TrafficFabric.PolicyOrder
import TrafficFabric.Attempts
import TrafficFabric.Generations
import TrafficFabric.CatalogCapacity
import TrafficFabric.Freshness
import TrafficFabric.Restart
import TrafficFabric.Correlations
import TrafficFabric.BucketOwners
import TrafficFabric.LivenessChecks
import TrafficFabric.Stream
import TrafficFabric.Registration
import TrafficFabric.Answered
import TrafficFabric.Closing
import TrafficFabric.Replying
import TrafficFabric.ShutdownRequests
import TrafficFabric.SavingServer
import TrafficFabric.StoppingServer
