import RaycastingScene.Basic
import RaycastingScene.Filter
import RaycastingScene.Embree
import RaycastingScene.Batch
import RaycastingScene.ClosestPoint
import RaycastingScene.Scene
import RaycastingScene.Lifecycle
import RaycastingScene.Derived
import RaycastingScene.HitCount
import RaycastingScene.Protocol
import RaycastingScene.PeerConnection
