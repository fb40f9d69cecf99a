import RecipeRunner.Unicode.RangeTable
/-!
# Ages

The edition of the standard that first assigned a character.  An edition is known by ten times
its number, so 151 stands for edition 15.1; zero stands for characters that no edition has
assigned.
-/

namespace RecipeRunner.Unicode

/-- The runs of equal age, from code point zero to the last. -/
private def ageRuns : RunTable Nat := RunTable.ofText (fun age => natOfDigits 10 age.toList) 0
  "11:1F6 30:4 11:1E 30:8 32:1 40:1 30:12 40:3 41:B 50:E 11:59 30:5 40:2 11:2F 30:1 11:A 30:5
  40:11 11:46 30:9 32:1 40:8 41:5 40:3 11:2 30:1 32:D 51:4 11:2 51:2 0:2 11:1 50:3 11:1 70:1 0:4
  11:7 0:1 11:1 0:1 11:14 0:1 11:2C 51:1 11:7 30:1 32:2 11:1 30:1 11:1 30:1 11:1 30:1 11:1 30:1
  11:12 31:2 32:1 40:5 41:4 30:1 11:C 30:1 11:42 30:1 11:C 30:1 11:29 51:1 30:2 32:2 30:4 11:35
  32:2 11:2 32:2 11:2 32:2 50:1 11:1C 30:2 11:8 41:2 11:2 50:6 32:10 50:4 51:10 52:2 60:2 70:8
  0:1 11:26 0:2 11:7 110:1 11:27 110:1 11:1 30:1 0:2 70:2 61:1 0:1 20:11 41:1 20:D 11:A 50:1
  11:9 20:1 41:3 0:8 11:1B 0:4 110:1 11:5 0:B 40:4 61:1 70:1 51:5 41:1 11:1 40:9 51:5 11:1 63:1
  140:1 41:1 11:1 60:1 11:1A 51:5 11:13 30:3 40:3 41:6 60:1 11:E 32:2 11:48 30:2 11:5 30:1 11:F
  30:1 11:1E 40:2 11:A 30:5 40:1 30:E 0:1 30:1E 40:3 30:1B 0:2 40:3 41:1E 51:12 30:31 32:1 0:E
  50:3B 0:2 110:3 52:2E 0:2 52:F 0:1 60:1C 0:2 60:1 0:1 100:B 0:5 140:1F 170:1 140:2 0:5 160:1
  140:8 61:1 70:1 61:B 70:6 80:2 140:1 90:8 130:A 140:B 110:1 90:F 80:1 61:1B 70:1 52:1 11:3
  40:1 11:35 60:2 11:12 52:1 60:1 11:5 52:1 60:2 11:19 51:2 60:5 70:1 52:2 50:2 41:1 50:2 70:1
  11:3 0:1 11:8 0:2 11:2 0:2 11:16 0:1 11:7 0:1 11:1 0:3 11:4 0:2 11:1 40:1 11:7 0:2 11:2 0:2
  11:3 41:1 0:8 11:1 0:4 11:2 0:1 11:5 0:2 11:15 52:1 100:2 110:1 0:2 40:1 11:1 40:1 0:1 11:6
  0:4 11:2 0:2 11:16 0:1 11:7 0:1 11:2 0:1 11:2 0:1 11:2 0:2 11:1 0:1 11:5 0:4 11:2 0:2 11:3 0:3
  51:1 0:7 11:4 0:1 11:1 0:7 11:F 51:1 110:1 0:A 11:3 0:1 11:7 40:1 11:1 0:1 11:3 0:1 11:16 0:1
  11:7 0:1 11:2 0:1 11:5 0:2 11:A 0:1 11:3 0:1 11:3 0:2 11:1 0:F 11:1 40:3 0:2 11:A 61:1 40:1
  0:7 80:1 100:6 0:1 11:3 0:1 11:8 0:2 11:2 0:2 11:16 0:1 11:7 0:1 11:2 0:1 40:1 11:4 0:2 11:8
  51:1 0:2 11:2 0:2 11:3 0:7 130:1 11:2 0:4 11:2 0:1 11:3 51:2 0:2 11:B 40:1 60:6 0:A 11:2 0:1
  11:6 0:3 11:3 0:1 11:4 0:3 11:2 0:1 11:1 0:1 11:2 0:3 11:2 0:3 11:3 0:3 11:8 41:1 11:3 0:4
  11:5 0:3 11:3 0:1 11:4 0:2 51:1 0:6 11:1 0:E 41:1 11:C 40:8 0:5 70:1 11:3 110:1 11:8 0:1 11:3
  0:1 11:17 0:1 11:A 70:1 11:5 0:2 140:1 51:1 11:7 0:1 11:3 0:1 11:4 0:7 11:2 0:1 51:2 80:1 0:1
  170:1 140:1 0:2 11:2 51:2 0:2 11:A 0:7 120:1 51:8 90:1 70:1 11:2 110:1 11:8 0:1 11:3 0:1 11:17
  0:1 11:A 0:1 11:5 0:2 40:2 11:7 0:1 11:3 0:1 11:4 0:7 11:2 0:5 170:1 140:1 11:1 0:1 11:2 50:2
  0:2 11:A 0:1 50:2 150:1 0:C 100:1 70:1 11:2 130:1 11:8 0:1 11:3 0:1 11:17 60:1 11:10 60:1
  100:2 51:1 11:6 51:1 0:1 11:3 0:1 11:4 60:1 90:1 0:4 90:3 11:1 90:7 80:1 11:2 51:2 0:2 11:A
  51:6 90:3 51:7 0:1 130:1 30:2 0:1 30:12 0:3 30:18 0:1 30:9 0:1 30:1 0:2 30:7 0:3 30:1 0:4 30:6
  0:1 30:1 0:1 30:8 0:6 70:A 0:2 30:3 0:C 11:3A 0:4 11:1D 0:25 11:2 0:1 11:1 0:1 120:1 11:2
  120:1 11:1 0:1 120:1 11:1 120:6 11:4 120:1 11:7 120:1 11:3 0:1 11:1 0:1 11:1 120:2 11:2 120:1
  11:D 120:1 11:3 0:2 11:5 0:1 11:1 0:1 11:6 150:1 0:1 11:A 0:2 11:2 61:2 0:20 20:48 0:1 20:21
  30:1 51:2 0:4 20:1B 60:4 20:6 30:1 20:1 0:1 20:15 30:3 20:7 30:1 20:1 30:3 0:1 30:F 0:1 51:1
  30:1 41:2 51:3 52:4 60:2 0:25 30:22 51:1 30:5 51:1 30:2 51:1 30:7 51:3 30:4 51:6 30:1A 51:40
  52:4 51:2 11:26 0:1 61:1 0:5 61:1 0:2 11:27 32:2 41:2 11:1 41:1 61:3 11:5A 52:5 11:44 52:5
  11:52 52:6 30:7 41:1 30:3F 41:1 30:1 0:1 30:4 0:2 30:7 0:1 30:1 0:1 30:4 0:2 30:27 41:1 30:1
  0:1 30:4 0:2 30:1F 41:1 30:1 0:1 30:4 0:2 30:7 0:1 30:1 0:1 30:4 0:2 30:7 41:1 30:7 0:1 30:17
  41:1 30:1F 41:1 30:1 0:1 30:4 0:2 30:7 41:1 30:27 41:1 30:13 0:2 60:2 41:2 30:1C 0:3 41:1A 0:6
  30:55 80:1 0:2 80:6 0:2 52:1 30:276 52:9 30:1D 0:3 30:51 70:8 0:7 32:D 140:1 32:7 140:1 0:9
  140:1 32:17 0:9 32:14 0:C 32:D 0:1 32:3 0:1 32:2 0:C 30:5D 40:1 0:2 30:A 0:6 40:A 0:6 30:F
  140:1 30:A 0:6 30:58 110:1 0:7 30:2A 51:1 0:5 52:46 0:A 40:1D 70:2 0:1 40:C 0:4 40:C 0:4 40:1
  0:3 40:2A 0:2 40:5 0:B 41:2A 52:2 0:4 41:1A 0:6 41:A 52:1 0:3 41:2 40:20 41:1C 0:2 41:2 52:3F
  0:1 52:1D 0:2 52:B 0:6 52:A 0:6 52:E 0:2 70:F 130:2 140:E 170:F 0:2 170:C 0:14 50:4C 140:1 0:1
  160:2 50:2D 140:2 160:1 51:2B 61:3 51:C 61:6 60:34 0:8 60:4 51:38 0:3 51:F 0:3 51:33 90:9
  160:2 0:5 110:2B 0:2 110:3 61:8 0:8 52:23 61:4 100:1 70:2 120:1 0:5 40:6C 41:58 50:7 51:1C
  70:F 100:4 140:1 90:1 60:1 52:1 50:2 11:9B 20:1 51:4 11:5A 51:6 11:16 0:2 11:6 0:2 11:26 0:2
  11:6 0:2 11:8 0:1 11:1 0:1 11:1 0:1 11:1 0:1 11:1F 0:2 11:35 0:1 11:F 0:1 11:E 0:2 11:6 0:1
  11:13 0:2 11:3 0:1 11:9 0:1 11:2F 30:1 11:17 32:1 30:6 32:5 40:2 41:2 32:1 41:7 32:5 51:1 0:1
  63:4 11:7 32:1 0:2 11:1B 0:1 41:5 60:8 0:3 11:B 20:1 21:1 30:3 32:2 41:4 52:3 60:1 62:1 70:3
  80:1 100:1 140:1 170:1 0:E 11:12 30:2 32:7 41:1 50:4 51:1 0:F 11:39 30:2 40:1 41:1 32:F 41:1
  50:2 51:1 52:3 11:30 30:1 50:1 51:4 52:1 80:2 0:4 11:5B 30:9 32:C 11:F2 32:E 11:1 30:1 11:79
  30:1 32:1 30:1E 32:34 40:2 41:B 50:C 52:1 60:B 70:7 90:4 100:1 11:25 30:2 160:3 0:16 11:B 0:15
  11:8B 32:14 40:1 11:96 32:A 11:50 30:8 32:8 11:14 40:2 32:2 41:1 30:1 11:56 30:2 32:C 41:2
  32:A 40:8 41:B 51:1 52:2 40:2 41:10 50:1 51:A 52:3 51:4 52:A 60:1 52:13 60:1 52:1 60:4 52:18
  70:1 11:4 60:1 11:4 60:2 11:1C 60:1 11:23 60:1 11:1 60:1 11:4 60:3 11:1 52:1 11:7 60:2 11:7
  32:E 11:1F 60:3 11:18 60:1 11:E 60:1 41:7 50:4 61:1 51:1 61:1 60:2 32:1C 51:4 32:10 30:100
  32:200 40:E 41:6 50:7 51:5 50:4 51:29 70:3 51:5 52:5 70:1A 0:2 70:20 170:1 130:1 70:22 110:3
  70:C 120:1 70:8 100:1 110:19 80:4 110:F 120:1 41:2F 140:1 41:2F 140:1 50:D 51:3 52:1 51:3 50:4
  51:6 52:2 41:6B 52:7 61:2 0:5 41:2D 0:1 61:1 0:5 61:1 0:2 41:36 61:2 0:7 41:1 60:1 0:E 60:1
  41:17 0:9 41:7 0:1 41:7 0:1 41:7 0:1 41:7 0:1 41:7 0:1 41:7 0:1 41:7 0:1 41:7 0:1 51:20 41:18
  51:4 41:2 51:13 52:1 61:A 70:7 90:2 100:5 110:5 120:1 130:3 140:B 0:22 30:1A 0:1 30:59 0:C
  30:D6 0:1A 30:C 151:4 11:38 30:3 32:3 30:1 11:1 0:1 11:54 32:2 0:2 11:6 32:2 11:5E 32:1 0:5
  11:28 51:1 100:1 110:1 0:1 11:5E 0:1 11:10 30:18 60:3 130:5 41:10 51:14 160:2 0:9 151:1 32:10
  11:1D 40:2 0:1 11:24 52:C 40:1 32:F 11:1C 40:2 41:1 11:32 32:F 11:C 40:4 11:2F 121:1 11:77
  40:4 11:63 40:2 11:1F 40:1 30:19B6 130:A 40:40 11:51A6 41:16 51:8 52:8 61:1 80:9 100:15 110:5
  130:D 140:3 30:48D 0:3 30:12 32:2 30:10 32:1 30:C 32:1 30:3 32:1 30:1 0:9 52:30 51:12C 0:14
  51:20 60:2 51:12 61:8 51:1C 70:6 80:1 61:1 52:58 0:8 41:17 50:4 51:5 50:2 51:6B 60:2 80:1 60:2
  61:2 70:C 60:A 61:1 70:3 90:1 110:1 70:2 80:6 110:2 120:6 140:2 120:5 130:4 160:3 170:2 140:2
  170:1 140:1 170:1 140:5 160:3 0:14 170:1 140:3 130:2 70:1 61:2 60:1 51:5 41:2C 130:1 0:3 52:A
  0:6 50:38 0:8 51:45 90:1 0:8 51:C 0:6 52:1C 80:2 110:2 51:54 0:B 51:1 52:1D 0:3 52:4E 0:1 52:B
  0:4 52:2 70:1F 0:1 51:37 0:9 51:E 0:2 51:A 0:2 51:4 52:1C 70:4 52:43 0:18 52:5 61:17 0:A 60:6
  0:2 60:6 0:2 60:6 0:9 60:7 0:1 60:7 0:1 70:30 80:4 70:2 120:2 130:4 0:4 80:50 52:2E 0:2 52:A
  0:6 20:2BA4 0:C 52:17 0:4 52:31 0:804 11:1A2E 61:2 32:3B 52:3 0:2 41:6A 0:26 11:7 0:C 11:5 0:5
  30:1 11:19 0:1 11:5 0:1 11:1 0:1 11:2 0:1 11:2 0:1 11:6C 60:10 140:1 170:10 11:16D 140:10
  11:40 170:2 11:36 170:7 140:1 31:20 11:C 32:1 40:1 140:2 32:10 41:A 0:6 11:4 51:3 70:7 80:2
  11:15 32:2 40:2 11:A 0:1 11:13 0:1 11:4 0:4 11:3 32:1 11:1 0:1 11:87 0:2 11:1 0:1 11:5E 32:2
  11:5E 0:3 11:6 0:2 11:6 0:2 11:6 0:2 11:3 0:3 11:7 0:1 11:7 0:A 30:3 21:1 11:3 40:C 0:1 40:1A
  0:1 40:13 0:1 40:2 0:1 40:F 0:2 40:E 0:22 40:7B 0:5 40:3 0:4 40:2D 0:3 40:9 41:4B 70:2 90:2
  0:1 51:C 130:1 0:3 70:1 0:2F 51:2E 0:82 51:1D 0:3 51:31 0:F 70:1C 0:4 31:1F 70:1 31:4 0:9
  100:3 31:1B 0:5 70:2B 0:5 40:1E 0:1 40:1 41:24 0:4 41:E 0:2A 31:26 40:2 31:26 40:50 0:2 40:A
  0:6 90:24 0:4 90:24 0:4 70:28 0:8 70:34 0:B 70:1 140:B 0:1 140:F 0:1 140:7 0:1 140:2 0:1 140:B
  0:1 140:F 0:1 140:7 0:1 140:2 0:3 160:34 0:C 70:137 0:9 70:16 0:A 70:8 0:18 140:6 0:1 140:2A
  0:1 140:9 0:45 40:6 0:2 40:1 0:1 40:2C 0:1 40:2 0:3 40:1 0:2 40:1 52:16 0:1 52:9 70:3F 0:8
  70:9 0:30 80:13 0:1 80:2 0:5 80:5 50:1A 52:2 0:3 50:1 51:1A 0:5 51:1 170:1A 0:26 61:38 0:4
  80:2 61:2 80:10 0:2 80:2E 41:4 0:1 41:2 0:5 41:8 0:1 41:3 0:1 41:1B 110:2 0:2 41:3 0:4 41:9
  110:1 0:7 41:9 0:7 52:20 70:20 0:20 70:27 0:4 70:C 0:9 52:36 0:3 52:1D 0:2 52:1B 0:5 52:8
  70:12 0:7 70:4 0:C 70:7 0:50 52:49 0:37 80:33 0:D 80:33 0:7 80:6 110:28 0:8 110:A 0:6 160:26
  0:3 160:1D 0:8 160:2 0:D0 52:1F 0:1 130:2A 0:1 130:3 0:2 130:2 0:10 160:3 170:3 0:8 170:9 0:21
  170:2 160:1 150:3 110:28 0:8 110:2A 0:16 140:1A 0:26 130:1C 0:14 120:17 0:9 60:4E 0:4 60:1E
  140:6 0:9 70:1 52:42 140:1 0:A 110:1 0:2 61:19 0:7 61:A 0:6 61:35 0:1 61:E 110:3 130:1 0:8
  70:27 0:9 61:49 80:4 70:1 130:2 61:A 70:1 80:5 0:1 70:14 0:B 70:12 0:1 70:2B 90:1 150:3 0:3E
  80:7 0:1 80:1 0:1 80:4 0:1 80:F 0:1 80:B 0:6 70:3B 0:5 70:A 0:6 80:1 70:3 0:1 70:8 0:2 70:2
  0:2 70:16 0:1 70:7 0:1 70:2 0:1 70:5 0:1 110:1 70:9 0:2 70:2 0:2 70:3 0:2 80:1 0:6 70:1 0:5
  70:7 0:2 70:7 0:3 70:5 0:B 160:A 0:1 160:1 0:2 160:1 0:1 160:26 0:1 160:A 0:1 160:1 0:2 160:1
  0:1 160:4 0:1 160:A 0:1 160:2 0:8 160:2 0:1D 90:5A 130:1 90:1 0:1 90:1 110:1 120:1 130:2 0:1E
  70:48 0:8 70:A 0:A6 70:36 0:2 70:12 80:14 0:22 70:45 0:B 70:A 0:6 90:D 0:13 61:38 120:1 140:1
  0:6 61:A 0:6 160:14 0:1C 80:1A 110:1 0:2 80:F 0:4 80:10 140:7 0:B9 110:3C 0:64 70:53 0:C 70:1
  130:7 0:2 130:1 0:2 130:8 0:1 130:2 0:1 130:1E 0:1 130:2 0:2 130:C 0:9 130:A 0:46 120:8 0:2
  120:2E 0:2 120:B 0:1B 100:48 0:8 100:34 120:2 100:17 110:1 100:5 0:D 140:10 70:39 0:7 150:A
  0:56 170:8 0:58 160:22 0:E 160:A 0:6 90:9 0:1 90:2D 0:1 90:E 0:A 90:1D 0:3 90:20 0:2 90:16 0:1
  90:E 0:49 100:7 0:1 100:2 0:1 100:2C 0:3 100:1 0:1 100:2 0:1 100:9 0:8 100:A 0:6 110:6 0:1
  110:2 0:1 110:25 0:1 110:2 0:1 110:6 0:7 110:A 0:6 170:2C 0:4 170:A 0:F6 110:19 0:7 150:11 0:1
  150:29 0:3 150:1C 160:1 0:55 130:1 0:F 120:32 0:D 120:1 50:36F 70:2A 80:1 0:66 50:63 70:C 0:1
  50:4 70:1 0:B 80:C4 0:A4C 140:63 0:D 52:42F 150:1 120:9 150:1D 0:A 160:F9B 0:5 80:247 0:1AB9
  160:3A 0:6C6 60:239 0:7 70:1F 0:1 70:A 0:4 70:2 140:4F 0:1 140:A 0:6 70:1E 0:2 70:6 0:A 70:46
  0:A 70:A 0:1 70:7 0:1 70:15 0:5 70:13 0:1B0 160:3A 0:C6 110:5B 0:5 170:19 0:2 170:19 0:2C
  61:45 120:6 0:4 120:1 61:2F 120:9 0:7 61:11 0:40 90:1 100:1 120:2 130:1 0:B 130:2 170:5 0:9
  90:17ED 110:5 120:6 170:8 90:2F3 130:1E3 0:29 160:1 130:9 170:16 0:61 170:73 0:21FD 140:4 0:1
  140:7 0:1 140:2 0:1 60:2 100:11D 140:4 0:F 150:1 0:1D 120:3 0:2 150:1 0:E 120:4 0:8 100:18C
  0:904 70:6B 0:5 70:D 0:3 70:9 0:7 70:A 0:2 70:8 0:F5C 160:FA 170:3 0:3 160:1B4 0:6 170:17 0:F
  170:11 0:F 140:2E 0:2 140:17 0:9 140:74 0:3C 31:F6 0:A 31:27 0:2 51:1 31:B4 80:B 140:2 0:15
  41:46 0:7A 150:14 0:C 110:14 0:C 40:57 0:9 50:12 110:7 0:87 31:55 0:1 31:47 0:1 31:2 0:2 31:1
  0:2 31:2 0:2 31:4 0:1 31:C 0:1 31:1 0:1 31:4 40:1 31:2 0:1 31:41 0:1 31:4 0:2 31:8 0:1 31:7
  0:1 31:1C 0:1 31:4 0:1 31:5 0:1 31:1 0:3 31:7 0:1 31:152 41:2 0:2 31:122 50:2 0:2 31:32 80:28C
  0:F 80:5 0:1 80:F 0:450 140:1F 0:6 150:6 0:D5 90:7 0:1 90:11 0:2 90:7 0:1 90:2 0:1 90:5 0:5
  150:3E 0:21 150:1 0:70 120:2D 0:3 120:E 0:2 120:A 0:4 120:2 0:140 140:1F 0:11 120:3A 0:5 120:1
  0:1D0 150:2A 0:D6 160:2B 0:4 160:1 0:C0 170:1F 0:1 170:16 0:8 170:2 0:E0 140:7 0:1 140:4 0:1
  140:2 0:1 140:F 0:1 70:C5 0:2 70:10 0:29 90:4B 120:1 0:4 90:A 0:4 90:2 0:311 110:44 0:4C
  120:3D 0:C2 61:4 0:1 61:1B 0:1 61:2 0:1 61:1 0:2 61:1 0:1 61:A 0:1 61:4 0:1 61:1 0:1 61:1 0:6
  61:1 0:4 61:1 0:1 61:1 0:1 61:1 0:1 61:3 0:1 61:2 0:1 61:1 0:2 61:1 0:1 61:1 0:1 61:1 0:1 61:1
  0:1 61:1 0:1 61:2 0:1 61:1 0:2 61:4 0:1 61:7 0:1 61:4 0:1 61:4 0:1 61:1 0:1 61:A 0:1 61:11 0:5
  61:3 0:1 61:5 0:1 61:11 0:34 61:2 0:10E 51:2C 0:4 51:64 0:C 60:F 0:2 60:E 70:1 0:1 60:F 0:1
  60:F 70:16 0:A 52:B 70:2 130:3 52:1F 110:1 60:1 52:1 60:B 52:1 60:1 52:1 60:2 52:1 60:3 52:1
  60:3 52:5 60:8 52:1 60:7 52:1 60:A 61:2 120:1 130:3 60:9 52:1 60:1 52:2 60:2 52:1 60:A 52:4
  60:2 52:1 60:A 90:12 130:1 0:38 60:1A 52:1 60:2 0:D 52:22 60:9 90:1 0:4 52:9 0:7 60:2 0:E
  100:6 0:9A 60:21 70:C 80:3 60:6 70:1 60:46 70:1 80:2 60:14 70:C 60:25 70:1 60:5 70:4 80:5 70:C
  60:11 70:7 80:8 60:3F 70:1 60:1 70:1 60:B6 70:1 60:4 70:2 80:1 60:3E 70:2 61:4 70:7 80:5 60:18
  70:12 90:1 70:29 90:1 70:56 60:5 61:1 60:10 61:1 60:3 61:1 60:1 61:1 60:1 61:1 60:1 61:1 60:3
  61:1 60:6 61:2 60:4 61:1 60:1 61:2 60:4 61:1 60:C 70:2 80:2 60:B 70:30 60:46 70:A 80:1 90:2
  100:2 120:1 130:2 170:1 0:3 150:1 140:3 70:D 0:3 70:4 90:3 100:2 110:1 120:1 130:2 0:3 60:74
  150:3 170:4 150:5 70:55 110:4 150:1 0:6 120:C 0:4 140:1 0:F 70:C 0:4 70:38 0:8 70:A 0:6 70:28
  0:8 70:1E 0:2 130:2 160:A 0:4 160:2 0:E 170:9 0:27 100:C 130:1 120:3 80:9 90:6 100:1 90:8
  100:8 90:1 100:2 90:C 120:1 90:C 100:1 110:3 90:F 100:D 110:5 120:1 130:1 110:4 130:2 140:1
  110:1 120:1 110:4 80:5 90:D 100:6 110:B 130:2 120:6 130:3 120:2 110:A 120:6 80:1 110:2 120:8
  130:1 140:1 120:3 100:17 110:19 120:54 170:4 0:8 110:E 0:2 120:4 130:1 150:3 120:3 140:2 0:3
  120:3 130:4 150:2 160:1 170:1 0:3 170:1 160:1 120:6 130:13 140:4 150:3 130:7 140:4 150:3 160:1
  150:1 130:3 140:3 160:1 0:1 170:1 0:4 170:1 150:2 130:7 140:3 150:2 160:1 0:2 160:1 140:8
  150:1 160:1 170:1 0:4 170:1 140:7 150:2 0:7 130:93 0:1 130:37 160:25 130:A 170:1 0:403 20:2
  31:A6D7 130:7 140:2 0:20 52:1035 140:4 150:1 170:6 60:DE 0:2 80:1682 170:C 0:2 100:1D31 0:F
  151:26E 0:9A2 31:21E 0:5E0 20:2 130:134B 0:5 150:1060 170:10CA 0:CB84 20:2 0:FFFE 20:2 0:FFFE
  20:2 0:FFFE 20:2 0:FFFE 20:2 0:FFFE 20:2 0:FFFE 20:2 0:FFFE 20:2 0:FFFE 20:2 0:FFFE 20:2
  0:FFFE 20:2 0:1 31:1 0:1E 31:60 0:80 40:F0 0:FE0E 20:20002"

/-- The age of a character. -/
def age (c : Char) : Nat :=
  ageRuns.get c

/-- The editions that assigned characters, oldest first. -/
def ages : List Nat :=
  [11, 20, 21, 30, 31, 32, 40, 41, 50, 51, 52, 60, 61, 62, 63, 70, 80, 90, 100, 110, 120, 121,
   130, 140, 150, 151, 160, 170]

end RecipeRunner.Unicode
