import Multimatch.Unicode.Table

/-!
Where a sentence may end: the property the segmentation rules of Unicode 16 are stated in.
-/

namespace Multimatch.Unicode

/-- The values by their sentence break property. -/
def sentenceBreakRows : List Row := Row.read "
9=sp a=lf b-c=sp d=cr 20=sp 21=st 22=cl 27-29=cl 2c-2d=sc 2e=at 30-39=nu 3a-3b=sc 3f=st 41-5a=up
5b=cl 5d=cl 61-7a=lo 7b=cl 7d=cl 85=se a0=sp aa=lo ab=cl ad=fo b5=lo ba=lo bb=cl c0-d6=up d8-de=up
df-f6=lo f8-ff=lo 100=up 101=lo 102=up 103=lo 104=up 105=lo 106=up 107=lo 108=up 109=lo 10a=up
10b=lo 10c=up 10d=lo 10e=up 10f=lo 110=up 111=lo 112=up 113=lo 114=up 115=lo 116=up 117=lo 118=up
119=lo 11a=up 11b=lo 11c=up 11d=lo 11e=up 11f=lo 120=up 121=lo 122=up 123=lo 124=up 125=lo 126=up
127=lo 128=up 129=lo 12a=up 12b=lo 12c=up 12d=lo 12e=up 12f=lo 130=up 131=lo 132=up 133=lo 134=up
135=lo 136=up 137-138=lo 139=up 13a=lo 13b=up 13c=lo 13d=up 13e=lo 13f=up 140=lo 141=up 142=lo
143=up 144=lo 145=up 146=lo 147=up 148-149=lo 14a=up 14b=lo 14c=up 14d=lo 14e=up 14f=lo 150=up
151=lo 152=up 153=lo 154=up 155=lo 156=up 157=lo 158=up 159=lo 15a=up 15b=lo 15c=up 15d=lo 15e=up
15f=lo 160=up 161=lo 162=up 163=lo 164=up 165=lo 166=up 167=lo 168=up 169=lo 16a=up 16b=lo 16c=up
16d=lo 16e=up 16f=lo 170=up 171=lo 172=up 173=lo 174=up 175=lo 176=up 177=lo 178-179=up 17a=lo
17b=up 17c=lo 17d=up 17e-180=lo 181-182=up 183=lo 184=up 185=lo 186-187=up 188=lo 189-18b=up
18c-18d=lo 18e-191=up 192=lo 193-194=up 195=lo 196-198=up 199-19b=lo 19c-19d=up 19e=lo 19f-1a0=up
1a1=lo 1a2=up 1a3=lo 1a4=up 1a5=lo 1a6-1a7=up 1a8=lo 1a9=up 1aa-1ab=lo 1ac=up 1ad=lo 1ae-1af=up
1b0=lo 1b1-1b3=up 1b4=lo 1b5=up 1b6=lo 1b7-1b8=up 1b9-1ba=lo 1bb=le 1bc=up 1bd-1bf=lo 1c0-1c3=le
1c4-1c5=up 1c6=lo 1c7-1c8=up 1c9=lo 1ca-1cb=up 1cc=lo 1cd=up 1ce=lo 1cf=up 1d0=lo 1d1=up 1d2=lo
1d3=up 1d4=lo 1d5=up 1d6=lo 1d7=up 1d8=lo 1d9=up 1da=lo 1db=up 1dc-1dd=lo 1de=up 1df=lo 1e0=up
1e1=lo 1e2=up 1e3=lo 1e4=up 1e5=lo 1e6=up 1e7=lo 1e8=up 1e9=lo 1ea=up 1eb=lo 1ec=up 1ed=lo 1ee=up
1ef-1f0=lo 1f1-1f2=up 1f3=lo 1f4=up 1f5=lo 1f6-1f8=up 1f9=lo 1fa=up 1fb=lo 1fc=up 1fd=lo 1fe=up
1ff=lo 200=up 201=lo 202=up 203=lo 204=up 205=lo 206=up 207=lo 208=up 209=lo 20a=up 20b=lo 20c=up
20d=lo 20e=up 20f=lo 210=up 211=lo 212=up 213=lo 214=up 215=lo 216=up 217=lo 218=up 219=lo 21a=up
21b=lo 21c=up 21d=lo 21e=up 21f=lo 220=up 221=lo 222=up 223=lo 224=up 225=lo 226=up 227=lo 228=up
229=lo 22a=up 22b=lo 22c=up 22d=lo 22e=up 22f=lo 230=up 231=lo 232=up 233-239=lo 23a-23b=up 23c=lo
23d-23e=up 23f-240=lo 241=up 242=lo 243-246=up 247=lo 248=up 249=lo 24a=up 24b=lo 24c=up 24d=lo
24e=up 24f-293=lo 294=le 295-2b8=lo 2b9-2bf=le 2c0-2c1=lo 2c6-2d1=le 2e0-2e4=lo 2ec=le 2ee=le
300-36f=ex 370=up 371=lo 372=up 373=lo 374=le 376=up 377=lo 37a-37d=lo 37e=sc 37f=up 386=up
388-38a=up 38c=up 38e-38f=up 390=lo 391-3a1=up 3a3-3ab=up 3ac-3ce=lo 3cf=up 3d0-3d1=lo 3d2-3d4=up
3d5-3d7=lo 3d8=up 3d9=lo 3da=up 3db=lo 3dc=up 3dd=lo 3de=up 3df=lo 3e0=up 3e1=lo 3e2=up 3e3=lo
3e4=up 3e5=lo 3e6=up 3e7=lo 3e8=up 3e9=lo 3ea=up 3eb=lo 3ec=up 3ed=lo 3ee=up 3ef-3f3=lo 3f4=up
3f5=lo 3f7=up 3f8=lo 3f9-3fa=up 3fb-3fc=lo 3fd-42f=up 430-45f=lo 460=up 461=lo 462=up 463=lo 464=up
465=lo 466=up 467=lo 468=up 469=lo 46a=up 46b=lo 46c=up 46d=lo 46e=up 46f=lo 470=up 471=lo 472=up
473=lo 474=up 475=lo 476=up 477=lo 478=up 479=lo 47a=up 47b=lo 47c=up 47d=lo 47e=up 47f=lo 480=up
481=lo 483-489=ex 48a=up 48b=lo 48c=up 48d=lo 48e=up 48f=lo 490=up 491=lo 492=up 493=lo 494=up
495=lo 496=up 497=lo 498=up 499=lo 49a=up 49b=lo 49c=up 49d=lo 49e=up 49f=lo 4a0=up 4a1=lo 4a2=up
4a3=lo 4a4=up 4a5=lo 4a6=up 4a7=lo 4a8=up 4a9=lo 4aa=up 4ab=lo 4ac=up 4ad=lo 4ae=up 4af=lo 4b0=up
4b1=lo 4b2=up 4b3=lo 4b4=up 4b5=lo 4b6=up 4b7=lo 4b8=up 4b9=lo 4ba=up 4bb=lo 4bc=up 4bd=lo 4be=up
4bf=lo 4c0-4c1=up 4c2=lo 4c3=up 4c4=lo 4c5=up 4c6=lo 4c7=up 4c8=lo 4c9=up 4ca=lo 4cb=up 4cc=lo
4cd=up 4ce-4cf=lo 4d0=up 4d1=lo 4d2=up 4d3=lo 4d4=up 4d5=lo 4d6=up 4d7=lo 4d8=up 4d9=lo 4da=up
4db=lo 4dc=up 4dd=lo 4de=up 4df=lo 4e0=up 4e1=lo 4e2=up 4e3=lo 4e4=up 4e5=lo 4e6=up 4e7=lo 4e8=up
4e9=lo 4ea=up 4eb=lo 4ec=up 4ed=lo 4ee=up 4ef=lo 4f0=up 4f1=lo 4f2=up 4f3=lo 4f4=up 4f5=lo 4f6=up
4f7=lo 4f8=up 4f9=lo 4fa=up 4fb=lo 4fc=up 4fd=lo 4fe=up 4ff=lo 500=up 501=lo 502=up 503=lo 504=up
505=lo 506=up 507=lo 508=up 509=lo 50a=up 50b=lo 50c=up 50d=lo 50e=up 50f=lo 510=up 511=lo 512=up
513=lo 514=up 515=lo 516=up 517=lo 518=up 519=lo 51a=up 51b=lo 51c=up 51d=lo 51e=up 51f=lo 520=up
521=lo 522=up 523=lo 524=up 525=lo 526=up 527=lo 528=up 529=lo 52a=up 52b=lo 52c=up 52d=lo 52e=up
52f=lo 531-556=up 559=le 55d=sc 560-588=lo 589=st 591-5bd=ex 5bf=ex 5c1-5c2=ex 5c4-5c5=ex 5c7=ex
5d0-5ea=le 5ef-5f3=le 600-605=nu 60c-60d=sc 610-61a=ex 61c=fo 61d-61f=st 620-64a=le 64b-65f=ex
660-669=nu 66b-66c=nu 66e-66f=le 670=ex 671-6d3=le 6d4=st 6d5=le 6d6-6dc=ex 6dd=nu 6df-6e4=ex
6e5-6e6=le 6e7-6e8=ex 6ea-6ed=ex 6ee-6ef=le 6f0-6f9=nu 6fa-6fc=le 6ff=le 700-702=st 70f=fo 710=le
711=ex 712-72f=le 730-74a=ex 74d-7a5=le 7a6-7b0=ex 7b1=le 7c0-7c9=nu 7ca-7ea=le 7eb-7f3=ex
7f4-7f5=le 7f8=sc 7f9=st 7fa=le 7fd=ex 800-815=le 816-819=ex 81a=le 81b-823=ex 824=le 825-827=ex
828=le 829-82d=ex 837=st 839=st 83d-83e=st 840-858=le 859-85b=ex 860-86a=le 870-887=le 889-88e=le
890-891=nu 897-89f=ex 8a0-8c9=le 8ca-8e1=ex 8e2=nu 8e3-903=ex 904-939=le 93a-93c=ex 93d=le
93e-94f=ex 950=le 951-957=ex 958-961=le 962-963=ex 964-965=st 966-96f=nu 971-980=le 981-983=ex
985-98c=le 98f-990=le 993-9a8=le 9aa-9b0=le 9b2=le 9b6-9b9=le 9bc=ex 9bd=le 9be-9c4=ex 9c7-9c8=ex
9cb-9cd=ex 9ce=le 9d7=ex 9dc-9dd=le 9df-9e1=le 9e2-9e3=ex 9e6-9ef=nu 9f0-9f1=le 9fc=le 9fe=ex
a01-a03=ex a05-a0a=le a0f-a10=le a13-a28=le a2a-a30=le a32-a33=le a35-a36=le a38-a39=le a3c=ex
a3e-a42=ex a47-a48=ex a4b-a4d=ex a51=ex a59-a5c=le a5e=le a66-a6f=nu a70-a71=ex a72-a74=le a75=ex
a81-a83=ex a85-a8d=le a8f-a91=le a93-aa8=le aaa-ab0=le ab2-ab3=le ab5-ab9=le abc=ex abd=le
abe-ac5=ex ac7-ac9=ex acb-acd=ex ad0=le ae0-ae1=le ae2-ae3=ex ae6-aef=nu af9=le afa-aff=ex
b01-b03=ex b05-b0c=le b0f-b10=le b13-b28=le b2a-b30=le b32-b33=le b35-b39=le b3c=ex b3d=le
b3e-b44=ex b47-b48=ex b4b-b4d=ex b55-b57=ex b5c-b5d=le b5f-b61=le b62-b63=ex b66-b6f=nu b71=le
b82=ex b83=le b85-b8a=le b8e-b90=le b92-b95=le b99-b9a=le b9c=le b9e-b9f=le ba3-ba4=le ba8-baa=le
bae-bb9=le bbe-bc2=ex bc6-bc8=ex bca-bcd=ex bd0=le bd7=ex be6-bef=nu c00-c04=ex c05-c0c=le
c0e-c10=le c12-c28=le c2a-c39=le c3c=ex c3d=le c3e-c44=ex c46-c48=ex c4a-c4d=ex c55-c56=ex
c58-c5a=le c5d=le c60-c61=le c62-c63=ex c66-c6f=nu c80=le c81-c83=ex c85-c8c=le c8e-c90=le
c92-ca8=le caa-cb3=le cb5-cb9=le cbc=ex cbd=le cbe-cc4=ex cc6-cc8=ex cca-ccd=ex cd5-cd6=ex
cdd-cde=le ce0-ce1=le ce2-ce3=ex ce6-cef=nu cf1-cf2=le cf3=ex d00-d03=ex d04-d0c=le d0e-d10=le
d12-d3a=le d3b-d3c=ex d3d=le d3e-d44=ex d46-d48=ex d4a-d4d=ex d4e=le d54-d56=le d57=ex d5f-d61=le
d62-d63=ex d66-d6f=nu d7a-d7f=le d81-d83=ex d85-d96=le d9a-db1=le db3-dbb=le dbd=le dc0-dc6=le
dca=ex dcf-dd4=ex dd6=ex dd8-ddf=ex de6-def=nu df2-df3=ex e01-e30=le e31=ex e32-e33=le e34-e3a=ex
e40-e46=le e47-e4e=ex e50-e59=nu e81-e82=le e84=le e86-e8a=le e8c-ea3=le ea5=le ea7-eb0=le eb1=ex
eb2-eb3=le eb4-ebc=ex ebd=le ec0-ec4=le ec6=le ec8-ece=ex ed0-ed9=nu edc-edf=le f00=le f18-f19=ex
f20-f29=nu f35=ex f37=ex f39=ex f3a-f3d=cl f3e-f3f=ex f40-f47=le f49-f6c=le f71-f84=ex f86-f87=ex
f88-f8c=le f8d-f97=ex f99-fbc=ex fc6=ex 1000-102a=le 102b-103e=ex 103f=le 1040-1049=nu 104a-104b=st
1050-1055=le 1056-1059=ex 105a-105d=le 105e-1060=ex 1061=le 1062-1064=ex 1065-1066=le 1067-106d=ex
106e-1070=le 1071-1074=ex 1075-1081=le 1082-108d=ex 108e=le 108f=ex 1090-1099=nu 109a-109d=ex
10a0-10c5=up 10c7=up 10cd=up 10d0-10fa=le 10fc=lo 10fd-1248=le 124a-124d=le 1250-1256=le 1258=le
125a-125d=le 1260-1288=le 128a-128d=le 1290-12b0=le 12b2-12b5=le 12b8-12be=le 12c0=le 12c2-12c5=le
12c8-12d6=le 12d8-1310=le 1312-1315=le 1318-135a=le 135d-135f=ex 1362=st 1367-1368=st 1380-138f=le
13a0-13f5=up 13f8-13fd=lo 1401-166c=le 166e=st 166f-167f=le 1680=sp 1681-169a=le 169b-169c=cl
16a0-16ea=le 16ee-16f8=le 1700-1711=le 1712-1715=ex 171f-1731=le 1732-1734=ex 1735-1736=st
1740-1751=le 1752-1753=ex 1760-176c=le 176e-1770=le 1772-1773=ex 1780-17b3=le 17b4-17d3=ex
17d4-17d5=st 17d7=le 17dc=le 17dd=ex 17e0-17e9=nu 1802=sc 1803=st 1808=sc 1809=st 180b-180d=ex
180e=fo 180f=ex 1810-1819=nu 1820-1878=le 1880-1884=le 1885-1886=ex 1887-18a8=le 18a9=ex 18aa=le
18b0-18f5=le 1900-191e=le 1920-192b=ex 1930-193b=ex 1944-1945=st 1946-194f=nu 1950-196d=le
1970-1974=le 1980-19ab=le 19b0-19c9=le 19d0-19da=nu 1a00-1a16=le 1a17-1a1b=ex 1a20-1a54=le
1a55-1a5e=ex 1a60-1a7c=ex 1a7f=ex 1a80-1a89=nu 1a90-1a99=nu 1aa7=le 1aa8-1aab=st 1ab0-1ace=ex
1b00-1b04=ex 1b05-1b33=le 1b34-1b44=ex 1b45-1b4c=le 1b4e-1b4f=st 1b50-1b59=nu 1b5a-1b5b=st
1b5e-1b5f=st 1b6b-1b73=ex 1b7d-1b7f=st 1b80-1b82=ex 1b83-1ba0=le 1ba1-1bad=ex 1bae-1baf=le
1bb0-1bb9=nu 1bba-1be5=le 1be6-1bf3=ex 1c00-1c23=le 1c24-1c37=ex 1c3b-1c3c=st 1c40-1c49=nu
1c4d-1c4f=le 1c50-1c59=nu 1c5a-1c7d=le 1c7e-1c7f=st 1c80-1c88=lo 1c89=up 1c8a=lo 1c90-1cba=le
1cbd-1cbf=le 1cd0-1cd2=ex 1cd4-1ce8=ex 1ce9-1cec=le 1ced=ex 1cee-1cf3=le 1cf4=ex 1cf5-1cf6=le
1cf7-1cf9=ex 1cfa=le 1d00-1dbf=lo 1dc0-1dff=ex 1e00=up 1e01=lo 1e02=up 1e03=lo 1e04=up 1e05=lo
1e06=up 1e07=lo 1e08=up 1e09=lo 1e0a=up 1e0b=lo 1e0c=up 1e0d=lo 1e0e=up 1e0f=lo 1e10=up 1e11=lo
1e12=up 1e13=lo 1e14=up 1e15=lo 1e16=up 1e17=lo 1e18=up 1e19=lo 1e1a=up 1e1b=lo 1e1c=up 1e1d=lo
1e1e=up 1e1f=lo 1e20=up 1e21=lo 1e22=up 1e23=lo 1e24=up 1e25=lo 1e26=up 1e27=lo 1e28=up 1e29=lo
1e2a=up 1e2b=lo 1e2c=up 1e2d=lo 1e2e=up 1e2f=lo 1e30=up 1e31=lo 1e32=up 1e33=lo 1e34=up 1e35=lo
1e36=up 1e37=lo 1e38=up 1e39=lo 1e3a=up 1e3b=lo 1e3c=up 1e3d=lo 1e3e=up 1e3f=lo 1e40=up 1e41=lo
1e42=up 1e43=lo 1e44=up 1e45=lo 1e46=up 1e47=lo 1e48=up 1e49=lo 1e4a=up 1e4b=lo 1e4c=up 1e4d=lo
1e4e=up 1e4f=lo 1e50=up 1e51=lo 1e52=up 1e53=lo 1e54=up 1e55=lo 1e56=up 1e57=lo 1e58=up 1e59=lo
1e5a=up 1e5b=lo 1e5c=up 1e5d=lo 1e5e=up 1e5f=lo 1e60=up 1e61=lo 1e62=up 1e63=lo 1e64=up 1e65=lo
1e66=up 1e67=lo 1e68=up 1e69=lo 1e6a=up 1e6b=lo 1e6c=up 1e6d=lo 1e6e=up 1e6f=lo 1e70=up 1e71=lo
1e72=up 1e73=lo 1e74=up 1e75=lo 1e76=up 1e77=lo 1e78=up 1e79=lo 1e7a=up 1e7b=lo 1e7c=up 1e7d=lo
1e7e=up 1e7f=lo 1e80=up 1e81=lo 1e82=up 1e83=lo 1e84=up 1e85=lo 1e86=up 1e87=lo 1e88=up 1e89=lo
1e8a=up 1e8b=lo 1e8c=up 1e8d=lo 1e8e=up 1e8f=lo 1e90=up 1e91=lo 1e92=up 1e93=lo 1e94=up 1e95-1e9d=lo
1e9e=up 1e9f=lo 1ea0=up 1ea1=lo 1ea2=up 1ea3=lo 1ea4=up 1ea5=lo 1ea6=up 1ea7=lo 1ea8=up 1ea9=lo
1eaa=up 1eab=lo 1eac=up 1ead=lo 1eae=up 1eaf=lo 1eb0=up 1eb1=lo 1eb2=up 1eb3=lo 1eb4=up 1eb5=lo
1eb6=up 1eb7=lo 1eb8=up 1eb9=lo 1eba=up 1ebb=lo 1ebc=up 1ebd=lo 1ebe=up 1ebf=lo 1ec0=up 1ec1=lo
1ec2=up 1ec3=lo 1ec4=up 1ec5=lo 1ec6=up 1ec7=lo 1ec8=up 1ec9=lo 1eca=up 1ecb=lo 1ecc=up 1ecd=lo
1ece=up 1ecf=lo 1ed0=up 1ed1=lo 1ed2=up 1ed3=lo 1ed4=up 1ed5=lo 1ed6=up 1ed7=lo 1ed8=up 1ed9=lo
1eda=up 1edb=lo 1edc=up 1edd=lo 1ede=up 1edf=lo 1ee0=up 1ee1=lo 1ee2=up 1ee3=lo 1ee4=up 1ee5=lo
1ee6=up 1ee7=lo 1ee8=up 1ee9=lo 1eea=up 1eeb=lo 1eec=up 1eed=lo 1eee=up 1eef=lo 1ef0=up 1ef1=lo
1ef2=up 1ef3=lo 1ef4=up 1ef5=lo 1ef6=up 1ef7=lo 1ef8=up 1ef9=lo 1efa=up 1efb=lo 1efc=up 1efd=lo
1efe=up 1eff-1f07=lo 1f08-1f0f=up 1f10-1f15=lo 1f18-1f1d=up 1f20-1f27=lo 1f28-1f2f=up 1f30-1f37=lo
1f38-1f3f=up 1f40-1f45=lo 1f48-1f4d=up 1f50-1f57=lo 1f59=up 1f5b=up 1f5d=up 1f5f=up 1f60-1f67=lo
1f68-1f6f=up 1f70-1f7d=lo 1f80-1f87=lo 1f88-1f8f=up 1f90-1f97=lo 1f98-1f9f=up 1fa0-1fa7=lo
1fa8-1faf=up 1fb0-1fb4=lo 1fb6-1fb7=lo 1fb8-1fbc=up 1fbe=lo 1fc2-1fc4=lo 1fc6-1fc7=lo 1fc8-1fcc=up
1fd0-1fd3=lo 1fd6-1fd7=lo 1fd8-1fdb=up 1fe0-1fe7=lo 1fe8-1fec=up 1ff2-1ff4=lo 1ff6-1ff7=lo
1ff8-1ffc=up 2000-200a=sp 200b=fo 200c-200d=ex 200e-200f=fo 2013-2014=sc 2018-201f=cl 2024=at
2028-2029=se 202a-202e=fo 202f=sp 2039-203a=cl 203c-203d=st 2045-2046=cl 2047-2049=st 205f=sp
2060-2064=fo 2066-206f=fo 2071=lo 207d-207e=cl 207f=lo 208d-208e=cl 2090-209c=lo 20d0-20f0=ex
2102=up 2107=up 210a=lo 210b-210d=up 210e-210f=lo 2110-2112=up 2113=lo 2115=up 2119-211d=up 2124=up
2126=up 2128=up 212a-212d=up 212f=lo 2130-2133=up 2134=lo 2135-2138=le 2139=lo 213c-213d=lo
213e-213f=up 2145=up 2146-2149=lo 214e=lo 2160-216f=up 2170-217f=lo 2180-2182=le 2183=up 2184=lo
2185-2188=le 2308-230b=cl 2329-232a=cl 24b6-24cf=up 24d0-24e9=lo 275b-2760=cl 2768-2775=cl
27c5-27c6=cl 27e6-27ef=cl 2983-2998=cl 29d8-29db=cl 29fc-29fd=cl 2c00-2c2f=up 2c30-2c5f=lo 2c60=up
2c61=lo 2c62-2c64=up 2c65-2c66=lo 2c67=up 2c68=lo 2c69=up 2c6a=lo 2c6b=up 2c6c=lo 2c6d-2c70=up
2c71=lo 2c72=up 2c73-2c74=lo 2c75=up 2c76-2c7d=lo 2c7e-2c80=up 2c81=lo 2c82=up 2c83=lo 2c84=up
2c85=lo 2c86=up 2c87=lo 2c88=up 2c89=lo 2c8a=up 2c8b=lo 2c8c=up 2c8d=lo 2c8e=up 2c8f=lo 2c90=up
2c91=lo 2c92=up 2c93=lo 2c94=up 2c95=lo 2c96=up 2c97=lo 2c98=up 2c99=lo 2c9a=up 2c9b=lo 2c9c=up
2c9d=lo 2c9e=up 2c9f=lo 2ca0=up 2ca1=lo 2ca2=up 2ca3=lo 2ca4=up 2ca5=lo 2ca6=up 2ca7=lo 2ca8=up
2ca9=lo 2caa=up 2cab=lo 2cac=up 2cad=lo 2cae=up 2caf=lo 2cb0=up 2cb1=lo 2cb2=up 2cb3=lo 2cb4=up
2cb5=lo 2cb6=up 2cb7=lo 2cb8=up 2cb9=lo 2cba=up 2cbb=lo 2cbc=up 2cbd=lo 2cbe=up 2cbf=lo 2cc0=up
2cc1=lo 2cc2=up 2cc3=lo 2cc4=up 2cc5=lo 2cc6=up 2cc7=lo 2cc8=up 2cc9=lo 2cca=up 2ccb=lo 2ccc=up
2ccd=lo 2cce=up 2ccf=lo 2cd0=up 2cd1=lo 2cd2=up 2cd3=lo 2cd4=up 2cd5=lo 2cd6=up 2cd7=lo 2cd8=up
2cd9=lo 2cda=up 2cdb=lo 2cdc=up 2cdd=lo 2cde=up 2cdf=lo 2ce0=up 2ce1=lo 2ce2=up 2ce3-2ce4=lo 2ceb=up
2cec=lo 2ced=up 2cee=lo 2cef-2cf1=ex 2cf2=up 2cf3=lo 2cf9-2cfb=st 2d00-2d25=lo 2d27=lo 2d2d=lo
2d30-2d67=le 2d6f=le 2d7f=ex 2d80-2d96=le 2da0-2da6=le 2da8-2dae=le 2db0-2db6=le 2db8-2dbe=le
2dc0-2dc6=le 2dc8-2dce=le 2dd0-2dd6=le 2dd8-2dde=le 2de0-2dff=ex 2e00-2e0d=cl 2e1c-2e1d=cl
2e20-2e29=cl 2e2e=st 2e2f=le 2e3c=st 2e42=cl 2e53-2e54=st 2e55-2e5c=cl 3000=sp 3001=sc 3002=st
3005-3007=le 3008-3011=cl 3014-301b=cl 301d-301f=cl 3021-3029=le 302a-302f=ex 3031-3035=le
3038-303c=le 3041-3096=le 3099-309a=ex 309d-309f=le 30a1-30fa=le 30fc-30ff=le 3105-312f=le
3131-318e=le 31a0-31bf=le 31f0-31ff=le 3400-4dbf=le 4e00-a48c=le a4d0-a4fd=le a4ff=st a500-a60c=le
a60e-a60f=st a610-a61f=le a620-a629=nu a62a-a62b=le a640=up a641=lo a642=up a643=lo a644=up a645=lo
a646=up a647=lo a648=up a649=lo a64a=up a64b=lo a64c=up a64d=lo a64e=up a64f=lo a650=up a651=lo
a652=up a653=lo a654=up a655=lo a656=up a657=lo a658=up a659=lo a65a=up a65b=lo a65c=up a65d=lo
a65e=up a65f=lo a660=up a661=lo a662=up a663=lo a664=up a665=lo a666=up a667=lo a668=up a669=lo
a66a=up a66b=lo a66c=up a66d=lo a66e=le a66f-a672=ex a674-a67d=ex a67f=le a680=up a681=lo a682=up
a683=lo a684=up a685=lo a686=up a687=lo a688=up a689=lo a68a=up a68b=lo a68c=up a68d=lo a68e=up
a68f=lo a690=up a691=lo a692=up a693=lo a694=up a695=lo a696=up a697=lo a698=up a699=lo a69a=up
a69b-a69d=lo a69e-a69f=ex a6a0-a6ef=le a6f0-a6f1=ex a6f3=st a6f7=st a717-a71f=le a722=up a723=lo
a724=up a725=lo a726=up a727=lo a728=up a729=lo a72a=up a72b=lo a72c=up a72d=lo a72e=up a72f-a731=lo
a732=up a733=lo a734=up a735=lo a736=up a737=lo a738=up a739=lo a73a=up a73b=lo a73c=up a73d=lo
a73e=up a73f=lo a740=up a741=lo a742=up a743=lo a744=up a745=lo a746=up a747=lo a748=up a749=lo
a74a=up a74b=lo a74c=up a74d=lo a74e=up a74f=lo a750=up a751=lo a752=up a753=lo a754=up a755=lo
a756=up a757=lo a758=up a759=lo a75a=up a75b=lo a75c=up a75d=lo a75e=up a75f=lo a760=up a761=lo
a762=up a763=lo a764=up a765=lo a766=up a767=lo a768=up a769=lo a76a=up a76b=lo a76c=up a76d=lo
a76e=up a76f-a778=lo a779=up a77a=lo a77b=up a77c=lo a77d-a77e=up a77f=lo a780=up a781=lo a782=up
a783=lo a784=up a785=lo a786=up a787=lo a788=le a78b=up a78c=lo a78d=up a78e=lo a78f=le a790=up
a791=lo a792=up a793-a795=lo a796=up a797=lo a798=up a799=lo a79a=up a79b=lo a79c=up a79d=lo a79e=up
a79f=lo a7a0=up a7a1=lo a7a2=up a7a3=lo a7a4=up a7a5=lo a7a6=up a7a7=lo a7a8=up a7a9=lo a7aa-a7ae=up
a7af=lo a7b0-a7b4=up a7b5=lo a7b6=up a7b7=lo a7b8=up a7b9=lo a7ba=up a7bb=lo a7bc=up a7bd=lo a7be=up
a7bf=lo a7c0=up a7c1=lo a7c2=up a7c3=lo a7c4-a7c7=up a7c8=lo a7c9=up a7ca=lo a7cb-a7cc=up a7cd=lo
a7d0=up a7d1=lo a7d3=lo a7d5=lo a7d6=up a7d7=lo a7d8=up a7d9=lo a7da=up a7db=lo a7dc=up a7f2-a7f4=lo
a7f5=up a7f6=lo a7f7=le a7f8-a7fa=lo a7fb-a801=le a802=ex a803-a805=le a806=ex a807-a80a=le a80b=ex
a80c-a822=le a823-a827=ex a82c=ex a840-a873=le a876-a877=st a880-a881=ex a882-a8b3=le a8b4-a8c5=ex
a8ce-a8cf=st a8d0-a8d9=nu a8e0-a8f1=ex a8f2-a8f7=le a8fb=le a8fd-a8fe=le a8ff=ex a900-a909=nu
a90a-a925=le a926-a92d=ex a92f=st a930-a946=le a947-a953=ex a960-a97c=le a980-a983=ex a984-a9b2=le
a9b3-a9c0=ex a9c8-a9c9=st a9cf=le a9d0-a9d9=nu a9e0-a9e4=le a9e5=ex a9e6-a9ef=le a9f0-a9f9=nu
a9fa-a9fe=le aa00-aa28=le aa29-aa36=ex aa40-aa42=le aa43=ex aa44-aa4b=le aa4c-aa4d=ex aa50-aa59=nu
aa5d-aa5f=st aa60-aa76=le aa7a=le aa7b-aa7d=ex aa7e-aaaf=le aab0=ex aab1=le aab2-aab4=ex
aab5-aab6=le aab7-aab8=ex aab9-aabd=le aabe-aabf=ex aac0=le aac1=ex aac2=le aadb-aadd=le
aae0-aaea=le aaeb-aaef=ex aaf0-aaf1=st aaf2-aaf4=le aaf5-aaf6=ex ab01-ab06=le ab09-ab0e=le
ab11-ab16=le ab20-ab26=le ab28-ab2e=le ab30-ab5a=lo ab5c-ab69=lo ab70-abbf=lo abc0-abe2=le
abe3-abea=ex abeb=st abec-abed=ex abf0-abf9=nu ac00-d7a3=le d7b0-d7c6=le d7cb-d7fb=le f900-fa6d=le
fa70-fad9=le fb00-fb06=lo fb13-fb17=lo fb1d=le fb1e=ex fb1f-fb28=le fb2a-fb36=le fb38-fb3c=le
fb3e=le fb40-fb41=le fb43-fb44=le fb46-fbb1=le fbd3-fd3d=le fd3e-fd3f=cl fd50-fd8f=le fd92-fdc7=le
fdf0-fdfb=le fe00-fe0f=ex fe10-fe11=sc fe12=st fe13-fe14=sc fe15-fe16=st fe17-fe18=cl fe20-fe2f=ex
fe31-fe32=sc fe35-fe44=cl fe47-fe48=cl fe50-fe51=sc fe52=at fe54-fe55=sc fe56-fe57=st fe58=sc
fe59-fe5e=cl fe63=sc fe70-fe74=le fe76-fefc=le feff=fo ff01=st ff08-ff09=cl ff0c-ff0d=sc ff0e=at
ff10-ff19=nu ff1a-ff1b=sc ff1f=st ff21-ff3a=up ff3b=cl ff3d=cl ff41-ff5a=lo ff5b=cl ff5d=cl
ff5f-ff60=cl ff61=st ff62-ff63=cl ff64=sc ff66-ff9d=le ff9e-ff9f=ex ffa0-ffbe=le ffc2-ffc7=le
ffca-ffcf=le ffd2-ffd7=le ffda-ffdc=le fff9-fffb=fo 10000-1000b=le 1000d-10026=le 10028-1003a=le
1003c-1003d=le 1003f-1004d=le 10050-1005d=le 10080-100fa=le 10140-10174=le 101fd=ex 10280-1029c=le
102a0-102d0=le 102e0=ex 10300-1031f=le 1032d-1034a=le 10350-10375=le 10376-1037a=ex 10380-1039d=le
103a0-103c3=le 103c8-103cf=le 103d1-103d5=le 10400-10427=up 10428-1044f=lo 10450-1049d=le
104a0-104a9=nu 104b0-104d3=up 104d8-104fb=lo 10500-10527=le 10530-10563=le 10570-1057a=up
1057c-1058a=up 1058c-10592=up 10594-10595=up 10597-105a1=lo 105a3-105b1=lo 105b3-105b9=lo
105bb-105bc=lo 105c0-105f3=le 10600-10736=le 10740-10755=le 10760-10767=le 10780=lo 10781-10782=le
10783-10785=lo 10787-107b0=lo 107b2-107ba=lo 10800-10805=le 10808=le 1080a-10835=le 10837-10838=le
1083c=le 1083f-10855=le 10860-10876=le 10880-1089e=le 108e0-108f2=le 108f4-108f5=le 10900-10915=le
10920-10939=le 10980-109b7=le 109be-109bf=le 10a00=le 10a01-10a03=ex 10a05-10a06=ex 10a0c-10a0f=ex
10a10-10a13=le 10a15-10a17=le 10a19-10a35=le 10a38-10a3a=ex 10a3f=ex 10a56-10a57=st 10a60-10a7c=le
10a80-10a9c=le 10ac0-10ac7=le 10ac9-10ae4=le 10ae5-10ae6=ex 10b00-10b35=le 10b40-10b55=le
10b60-10b72=le 10b80-10b91=le 10c00-10c48=le 10c80-10cb2=up 10cc0-10cf2=lo 10d00-10d23=le
10d24-10d27=ex 10d30-10d39=nu 10d40-10d49=nu 10d4a-10d4f=le 10d50-10d65=up 10d69-10d6d=ex 10d6f=le
10d70-10d85=lo 10e80-10ea9=le 10eab-10eac=ex 10eb0-10eb1=le 10ec2-10ec4=le 10efc-10eff=ex
10f00-10f1c=le 10f27=le 10f30-10f45=le 10f46-10f50=ex 10f55-10f59=st 10f70-10f81=le 10f82-10f85=ex
10f86-10f89=st 10fb0-10fc4=le 10fe0-10ff6=le 11000-11002=ex 11003-11037=le 11038-11046=ex
11047-11048=st 11066-1106f=nu 11070=ex 11071-11072=le 11073-11074=ex 11075=le 1107f-11082=ex
11083-110af=le 110b0-110ba=ex 110bd=nu 110be-110c1=st 110c2=ex 110cd=nu 110d0-110e8=le
110f0-110f9=nu 11100-11102=ex 11103-11126=le 11127-11134=ex 11136-1113f=nu 11141-11143=st 11144=le
11145-11146=ex 11147=le 11150-11172=le 11173=ex 11176=le 11180-11182=ex 11183-111b2=le
111b3-111c0=ex 111c1-111c4=le 111c5-111c6=st 111c9-111cc=ex 111cd=st 111ce-111cf=ex 111d0-111d9=nu
111da=le 111dc=le 111de-111df=st 11200-11211=le 11213-1122b=le 1122c-11237=ex 11238-11239=st
1123b-1123c=st 1123e=ex 1123f-11240=le 11241=ex 11280-11286=le 11288=le 1128a-1128d=le
1128f-1129d=le 1129f-112a8=le 112a9=st 112b0-112de=le 112df-112ea=ex 112f0-112f9=nu 11300-11303=ex
11305-1130c=le 1130f-11310=le 11313-11328=le 1132a-11330=le 11332-11333=le 11335-11339=le
1133b-1133c=ex 1133d=le 1133e-11344=ex 11347-11348=ex 1134b-1134d=ex 11350=le 11357=ex
1135d-11361=le 11362-11363=ex 11366-1136c=ex 11370-11374=ex 11380-11389=le 1138b=le 1138e=le
11390-113b5=le 113b7=le 113b8-113c0=ex 113c2=ex 113c5=ex 113c7-113ca=ex 113cc-113d0=ex 113d1=le
113d2=ex 113d3=le 113d4-113d5=st 113e1-113e2=ex 11400-11434=le 11435-11446=ex 11447-1144a=le
1144b-1144c=st 11450-11459=nu 1145e=ex 1145f-11461=le 11480-114af=le 114b0-114c3=ex 114c4-114c5=le
114c7=le 114d0-114d9=nu 11580-115ae=le 115af-115b5=ex 115b8-115c0=ex 115c2-115c3=st 115c9-115d7=st
115d8-115db=le 115dc-115dd=ex 11600-1162f=le 11630-11640=ex 11641-11642=st 11644=le 11650-11659=nu
11680-116aa=le 116ab-116b7=ex 116b8=le 116c0-116c9=nu 116d0-116e3=nu 11700-1171a=le 1171d-1172b=ex
11730-11739=nu 1173c-1173e=st 11740-11746=le 11800-1182b=le 1182c-1183a=ex 118a0-118bf=up
118c0-118df=lo 118e0-118e9=nu 118ff-11906=le 11909=le 1190c-11913=le 11915-11916=le 11918-1192f=le
11930-11935=ex 11937-11938=ex 1193b-1193e=ex 1193f=le 11940=ex 11941=le 11942-11943=ex 11944=st
11946=st 11950-11959=nu 119a0-119a7=le 119aa-119d0=le 119d1-119d7=ex 119da-119e0=ex 119e1=le
119e3=le 119e4=ex 11a00=le 11a01-11a0a=ex 11a0b-11a32=le 11a33-11a39=ex 11a3a=le 11a3b-11a3e=ex
11a42-11a43=st 11a47=ex 11a50=le 11a51-11a5b=ex 11a5c-11a89=le 11a8a-11a99=ex 11a9b-11a9c=st
11a9d=le 11ab0-11af8=le 11bc0-11be0=le 11bf0-11bf9=nu 11c00-11c08=le 11c0a-11c2e=le 11c2f-11c36=ex
11c38-11c3f=ex 11c40=le 11c41-11c42=st 11c50-11c59=nu 11c72-11c8f=le 11c92-11ca7=ex 11ca9-11cb6=ex
11d00-11d06=le 11d08-11d09=le 11d0b-11d30=le 11d31-11d36=ex 11d3a=ex 11d3c-11d3d=ex 11d3f-11d45=ex
11d46=le 11d47=ex 11d50-11d59=nu 11d60-11d65=le 11d67-11d68=le 11d6a-11d89=le 11d8a-11d8e=ex
11d90-11d91=ex 11d93-11d97=ex 11d98=le 11da0-11da9=nu 11ee0-11ef2=le 11ef3-11ef6=ex 11ef7-11ef8=st
11f00-11f01=ex 11f02=le 11f03=ex 11f04-11f10=le 11f12-11f33=le 11f34-11f3a=ex 11f3e-11f42=ex
11f43-11f44=st 11f50-11f59=nu 11f5a=ex 11fb0=le 12000-12399=le 12400-1246e=le 12480-12543=le
12f90-12ff0=le 13000-1342f=le 13430-1343f=fo 13440=ex 13441-13446=le 13447-13455=ex 13460-143fa=le
14400-14646=le 16100-1611d=le 1611e-1612f=ex 16130-16139=nu 16800-16a38=le 16a40-16a5e=le
16a60-16a69=nu 16a6e-16a6f=st 16a70-16abe=le 16ac0-16ac9=nu 16ad0-16aed=le 16af0-16af4=ex 16af5=st
16b00-16b2f=le 16b30-16b36=ex 16b37-16b38=st 16b40-16b43=le 16b44=st 16b50-16b59=nu 16b63-16b77=le
16b7d-16b8f=le 16d40-16d6c=le 16d6e-16d6f=st 16d70-16d79=nu 16e40-16e5f=up 16e60-16e7f=lo 16e98=st
16f00-16f4a=le 16f4f=ex 16f50=le 16f51-16f87=ex 16f8f-16f92=ex 16f93-16f9f=le 16fe0-16fe1=le
16fe3=le 16fe4=ex 16ff0-16ff1=ex 17000-187f7=le 18800-18cd5=le 18cff-18d08=le 1aff0-1aff3=le
1aff5-1affb=le 1affd-1affe=le 1b000-1b122=le 1b132=le 1b150-1b152=le 1b155=le 1b164-1b167=le
1b170-1b2fb=le 1bc00-1bc6a=le 1bc70-1bc7c=le 1bc80-1bc88=le 1bc90-1bc99=le 1bc9d-1bc9e=ex 1bc9f=st
1bca0-1bca3=fo 1ccf0-1ccf9=nu 1cf00-1cf2d=ex 1cf30-1cf46=ex 1d165-1d169=ex 1d16d-1d172=ex
1d173-1d17a=fo 1d17b-1d182=ex 1d185-1d18b=ex 1d1aa-1d1ad=ex 1d242-1d244=ex 1d400-1d419=up
1d41a-1d433=lo 1d434-1d44d=up 1d44e-1d454=lo 1d456-1d467=lo 1d468-1d481=up 1d482-1d49b=lo 1d49c=up
1d49e-1d49f=up 1d4a2=up 1d4a5-1d4a6=up 1d4a9-1d4ac=up 1d4ae-1d4b5=up 1d4b6-1d4b9=lo 1d4bb=lo
1d4bd-1d4c3=lo 1d4c5-1d4cf=lo 1d4d0-1d4e9=up 1d4ea-1d503=lo 1d504-1d505=up 1d507-1d50a=up
1d50d-1d514=up 1d516-1d51c=up 1d51e-1d537=lo 1d538-1d539=up 1d53b-1d53e=up 1d540-1d544=up 1d546=up
1d54a-1d550=up 1d552-1d56b=lo 1d56c-1d585=up 1d586-1d59f=lo 1d5a0-1d5b9=up 1d5ba-1d5d3=lo
1d5d4-1d5ed=up 1d5ee-1d607=lo 1d608-1d621=up 1d622-1d63b=lo 1d63c-1d655=up 1d656-1d66f=lo
1d670-1d689=up 1d68a-1d6a5=lo 1d6a8-1d6c0=up 1d6c2-1d6da=lo 1d6dc-1d6e1=lo 1d6e2-1d6fa=up
1d6fc-1d714=lo 1d716-1d71b=lo 1d71c-1d734=up 1d736-1d74e=lo 1d750-1d755=lo 1d756-1d76e=up
1d770-1d788=lo 1d78a-1d78f=lo 1d790-1d7a8=up 1d7aa-1d7c2=lo 1d7c4-1d7c9=lo 1d7ca=up 1d7cb=lo
1d7ce-1d7ff=nu 1da00-1da36=ex 1da3b-1da6c=ex 1da75=ex 1da84=ex 1da88=st 1da9b-1da9f=ex
1daa1-1daaf=ex 1df00-1df09=lo 1df0a=le 1df0b-1df1e=lo 1df25-1df2a=lo 1e000-1e006=ex 1e008-1e018=ex
1e01b-1e021=ex 1e023-1e024=ex 1e026-1e02a=ex 1e030-1e06d=lo 1e08f=ex 1e100-1e12c=le 1e130-1e136=ex
1e137-1e13d=le 1e140-1e149=nu 1e14e=le 1e290-1e2ad=le 1e2ae=ex 1e2c0-1e2eb=le 1e2ec-1e2ef=ex
1e2f0-1e2f9=nu 1e4d0-1e4eb=le 1e4ec-1e4ef=ex 1e4f0-1e4f9=nu 1e5d0-1e5ed=le 1e5ee-1e5ef=ex 1e5f0=le
1e5f1-1e5fa=nu 1e7e0-1e7e6=le 1e7e8-1e7eb=le 1e7ed-1e7ee=le 1e7f0-1e7fe=le 1e800-1e8c4=le
1e8d0-1e8d6=ex 1e900-1e921=up 1e922-1e943=lo 1e944-1e94a=ex 1e94b=le 1e950-1e959=nu 1ee00-1ee03=le
1ee05-1ee1f=le 1ee21-1ee22=le 1ee24=le 1ee27=le 1ee29-1ee32=le 1ee34-1ee37=le 1ee39=le 1ee3b=le
1ee42=le 1ee47=le 1ee49=le 1ee4b=le 1ee4d-1ee4f=le 1ee51-1ee52=le 1ee54=le 1ee57=le 1ee59=le
1ee5b=le 1ee5d=le 1ee5f=le 1ee61-1ee62=le 1ee64=le 1ee67-1ee6a=le 1ee6c-1ee72=le 1ee74-1ee77=le
1ee79-1ee7c=le 1ee7e=le 1ee80-1ee89=le 1ee8b-1ee9b=le 1eea1-1eea3=le 1eea5-1eea9=le 1eeab-1eebb=le
1f130-1f149=up 1f150-1f169=up 1f170-1f189=up 1f676-1f678=cl 1fbf0-1fbf9=nu 20000-2a6df=le
2a700-2b739=le 2b740-2b81d=le 2b820-2cea1=le 2ceb0-2ebe0=le 2ebf0-2ee5d=le 2f800-2fa1d=le
30000-3134a=le 31350-323af=le e0001=fo e0020-e007f=ex e0100-e01ef=ex
"

/-- The codes of the property, each followed by its other normalised names. -/
def sentenceBreakNames : List Names := Names.read "
at aterm
cl close
cr
ex extend
fo format
le oletter
lf
lo lower
nu numeric
sc scontinue
se sep
sp
st sterm
up upper
xx other
"

/-- The values of the sentence break property with a code; a code without values is none. -/
def sentenceBreak? (code : String) : Option IntervalSet :=
  Row.select? sentenceBreakRows code

end Multimatch.Unicode
